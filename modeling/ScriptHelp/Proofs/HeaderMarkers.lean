import ScriptHelp.Proofs.HeaderLines
import ScriptHelp.Proofs.Lists

namespace ScriptHelp

namespace Header

open Text

def otherMarker : List Char → List Char
  | '/' :: '/' :: cs => '#' :: cs
  | '#' :: cs => '/' :: '/' :: cs
  | cs => cs

def remark (i : Nat) (text : String) : String :=
  String.ofList (['\n'].intercalate ((lineList text.toList).modify i otherMarker))

def Headed (text : String) : Prop := ∃ l ∈ block text.toList, OpensAny (bare l)

def Spaced (line : List Char) : Prop :=
  ∃ c cs, afterMarker? line = some (c :: cs) ∧ isWhitespace c = true

variable {line : List Char} {ls : List (List Char)} {i : Nat}

theorem afterMarker?_otherMarker (line : List Char) :
    afterMarker? (otherMarker line) = afterMarker? line := by
  fun_cases otherMarker line <;> rfl

theorem isComment_otherMarker (line : List Char) :
    isComment (otherMarker line) = isComment line := by
  rw [isComment, afterMarker?_otherMarker, isComment]

theorem clean_otherMarker (line : List Char) : clean (otherMarker line) = clean line := by
  fun_cases otherMarker line <;> rfl

/-- Changing the marker affects no other characters. -/
theorem mem_otherMarker_iff {c : Char} (hc : c ≠ '/') (hc' : c ≠ '#') :
    c ∈ otherMarker line ↔ c ∈ line := by
  fun_cases otherMarker line <;> simp [hc, hc']

theorem block_remark (i : Nat) (text : String) :
    block (remark i text).toList = (block text.toList).modify i otherMarker := by
  have hlines : ∀ l ∈ (lineList text.toList).modify i otherMarker, '\n' ∉ l := by
    intro l hl
    obtain ⟨j, hj⟩ := List.mem_iff_getElem?.mp hl
    rw [List.getElem?_modify] at hj
    obtain ⟨k, hk, rfl⟩ := Option.map_eq_some_iff.mp hj
    have hout : '\n' ∉ k := not_mem_of_mem_lineList (List.mem_of_getElem? hk)
    split_ifs
    · rwa [mem_otherMarker_iff (by decide) (by decide)]
    · exact hout
  have hne : (lineList text.toList).modify i otherMarker ≠ [] := by
    intro h
    have hlength := congrArg List.length h
    rw [List.length_modify] at hlength
    exact lineList_ne_nil _ (List.length_eq_zero_iff.mp hlength)
  rw [block, remark, String.toList_ofList, lineList_intercalate hlines hne]
  exact Lists.takeWhile_modify isComment_otherMarker i _

/-- A line is read the same with either marker. -/
theorem read_otherMarker (line : List Char) : Line.read (otherMarker line) = Line.read line := by
  simp only [Line.read, clean_otherMarker]

theorem map_read_modify (ls : List (List Char)) (i : Nat) :
    (ls.modify i otherMarker).map Line.read = ls.map Line.read :=
  Lists.map_modify_eq read_otherMarker i ls

theorem plainCommands_append (xs ys : List (List Char)) :
    plainCommands (xs ++ ys) = plainCommands xs ++ plainCommands ys := by
  simp only [plainCommands, List.filter_append, List.map_append]

theorem plainCommands_singleton (line : List Char) :
    plainCommands [line] = if '-' ∈ line then [String.ofList (trim (line.drop 2))] else [] := by
  by_cases h : '-' ∈ line <;> simp [plainCommands, h]

/-- The text after the marker and the text after two characters differ only by whitespace. -/
theorem trim_drop_otherMarker_iff (h : isComment line = true) (hline : '-' ∈ line) :
    trim ((otherMarker line).drop 2) = trim (line.drop 2) ↔ Spaced line := by
  -- the hyphen stands after the marker, so some character does
  have hspaced : ∀ {cs : List Char}, afterMarker? line = some cs → '-' ∈ cs →
      (trim (cs.drop 1) = trim cs ↔ Spaced line) := by
    intro cs hcs hmem
    obtain ⟨c, ds, rfl⟩ := List.exists_cons_of_ne_nil (List.ne_nil_of_mem hmem)
    rw [List.drop_one, List.tail_cons, eq_comm, trim_cons_eq_iff, Spaced, hcs]
    simp
  revert h hline hspaced
  fun_cases otherMarker line with
  | case1 cs =>
    intro _ hline hspaced
    exact hspaced rfl (by simpa using hline)
  | case2 cs =>
    intro _ hline hspaced
    exact eq_comm.trans (hspaced rfl (by simpa using hline))
  | case3 _ hslashes hhash =>
    intro h
    simp [isComment, afterMarker?] at h

/-- Changing one line changes the plain commands iff it changes that line's command. -/
theorem plainCommands_modify_iff (hi : ls[i]? = some line) (h : isComment line = true) :
    plainCommands (ls.modify i otherMarker) = plainCommands ls ↔ '-' ∉ line ∨ Spaced line := by
  -- all commands around this line are the same before and after
  obtain ⟨xs, ys, hls, hmodify⟩ := Lists.exists_around hi
  have haround : ∀ l, plainCommands (xs ++ l :: ys) =
      plainCommands xs ++ plainCommands [l] ++ plainCommands ys := by
    intro l
    rw [List.append_cons, plainCommands_append, plainCommands_append]
  have hone : plainCommands (ls.modify i otherMarker) = plainCommands ls ↔
      plainCommands [otherMarker line] = plainCommands [line] := by
    rw [hmodify, hls, haround, haround, List.append_cancel_right_eq, List.append_cancel_left_eq]
  rw [hone, plainCommands_singleton, plainCommands_singleton]
  have hmem : '-' ∈ otherMarker line ↔ '-' ∈ line := mem_otherMarker_iff (by decide) (by decide)
  by_cases hline : '-' ∈ line
  · rw [if_pos (hmem.mpr hline), if_pos hline, ← trim_drop_otherMarker_iff h hline]
    simp [hline, String.ofList_inj]
  · rw [if_neg fun hother => hline (hmem.mp hother), if_neg hline]
    exact iff_of_true rfl (.inl hline)

/-- Changing the marker of a comment changes nothing in a header with headings. In one without, it
changes nothing iff the line is no command or whitespace follows the marker. -/
theorem read_remark_eq_iff {text : String} {i : Nat} {line : List Char}
    (hi : (block text.toList)[i]? = some line) :
    read (remark i text) = read text ↔ Headed text ∨ '-' ∉ line ∨ Spaced line := by
  have hcomment : ∀ l ∈ block text.toList, isComment l = true := fun l hl => (mem_block hl).1
  have hheaded : Headed text ↔ ∃ l ∈ block text.toList, OpensAny (clean l) := by
    apply exists_congr
    intro l
    apply and_congr_right
    intro hl
    rw [clean_eq_bare ((isComment_iff l).mp (hcomment l hl))]
  have hnone := current_eq_none_iff (block text.toList)
  rw [read_eq_ofLines, read_eq_ofLines, block_remark, ofLines, ofLines, map_read_modify,
    ← plainCommands_modify_iff hi (hcomment line (List.mem_of_getElem? hi))]
  cases hr : ((block text.toList).map Line.read |>.foldl Reading.step {}).current with
  | some s =>
    have hsome : Headed text := by
      rw [hheaded]
      by_contra hnot
      have := hnone.mpr fun l hl ho => hnot ⟨l, hl, ho⟩
      simp [hr] at this
    simp [hsome]
  | none =>
    have hnot : ¬ Headed text := by
      rw [hheaded]
      rintro ⟨l, hl, ho⟩
      exact hnone.mp hr l hl ho
    simp [hnot]

/-- A space after `//` is also read after `#`. -/
theorem read_remark_eq_iff_spaced :
    let text := "// Doors\n// hubot open - opens\nrobot"
    (block text.toList)[1]? = some "// hubot open - opens".toList ∧
      remark 1 text = "// Doors\n# hubot open - opens\nrobot" ∧
      read (remark 1 text) = read text := by
  intro text
  have hi : (block text.toList)[1]? = some "// hubot open - opens".toList := by decide +kernel
  have hspaced : Spaced "// hubot open - opens".toList :=
    ⟨' ', "hubot open - opens".toList, rfl, rfl⟩
  exact ⟨hi, by decide +kernel, (read_remark_eq_iff hi).mpr (.inr (.inr hspaced))⟩

/-- A command right after `#` loses its first letter. -/
theorem not_read_remark_eq :
    ¬ ∀ (text : String) (i : Nat), i < (block text.toList).length →
      read (remark i text) = read text := by
  intro h
  have hshort : read "#ping - pong" = { commands := ["ing - pong"] } := by decide +kernel
  have hlong : read (remark 0 "#ping - pong") = { commands := ["ping - pong"] } := by
    decide +kernel
  have heq := h "#ping - pong" 0 (by decide +kernel)
  rw [hshort, hlong] at heq
  exact absurd heq (by decide)

end Header

end ScriptHelp
