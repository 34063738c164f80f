import ScriptHelp.Proofs.HeaderMarkers
import ScriptHelp.Proofs.LetterCase

namespace ScriptHelp

namespace Text

variable {c : Char} {cs : List Char}

theorem mem_dropWhile (hc : isWhitespace c = false) (h : c ∈ cs) :
    c ∈ cs.dropWhile isWhitespace := by
  rw [← List.takeWhile_append_dropWhile (p := isWhitespace) (l := cs), List.mem_append] at h
  rcases h with hspace | hrest
  · have := List.mem_takeWhile_imp hspace
    simp [hc] at this
  · exact hrest

theorem mem_trim (hc : isWhitespace c = false) (h : c ∈ cs) : c ∈ trim cs := by
  rw [trim, List.mem_reverse]
  apply mem_dropWhile hc
  rw [List.mem_reverse]
  exact mem_dropWhile hc h

end Text

namespace Header

open Text

/-- An empty comment, or a placeholder in any case. -/
structure Filler (line : List Char) : Prop where
  marked : Marked line
  one_line : '\n' ∉ line
  void : bare line = [] ∨ lowerList (bare line) = ['n', 'o', 'n', 'e']

instance : DecidablePred Filler := fun line =>
  decidable_of_iff (Marked line ∧ '\n' ∉ line ∧
      (bare line = [] ∨ lowerList (bare line) = ['n', 'o', 'n', 'e']))
    ⟨fun ⟨h₁, h₂, h₃⟩ => ⟨h₁, h₂, h₃⟩, fun ⟨h₁, h₂, h₃⟩ => ⟨h₁, h₂, h₃⟩⟩

def headerLines (text : String) : List (List Char) :=
  (text.toList.splitOn '\n').takeWhile fun l => Marked l

def ofLineList (ls : List (List Char)) : String := String.ofList (['\n'].intercalate ls)

def insertLines (i : Nat) (new : List (List Char)) (text : String) : String :=
  let ls := text.toList.splitOn '\n'
  ofLineList (ls.take i ++ new ++ ls.drop i)

variable {line l : List Char} {xs ys ls new : List (List Char)} {i : Nat} {text : String}

theorem read_eq_headerLines (text : String) : read text = ofLines (headerLines text) := by
  rw [read_eq_ofLines, block_eq, headerLines]

theorem headerLines_ofLineList (h : ∀ l ∈ ls, '\n' ∉ l) :
    headerLines (ofLineList ls) = ls.takeWhile fun l => Marked l := by
  by_cases hne : ls = []
  · subst hne
    rfl
  · rw [headerLines, ofLineList, String.toList_ofList, List.splitOn_intercalate _ h hne]

theorem not_mem_of_mem_splitOn {cs : List Char} (h : l ∈ cs.splitOn '\n') : '\n' ∉ l := by
  rw [← lineList_eq_splitOn] at h
  exact not_mem_of_mem_lineList h

theorem mem_headerLines (h : l ∈ headerLines text) : Marked l ∧ '\n' ∉ l := by
  have hmarked : decide (Marked l) = true :=
    List.mem_takeWhile_imp (p := fun l => decide (Marked l)) h
  exact ⟨of_decide_eq_true hmarked, not_mem_of_mem_splitOn ((List.takeWhile_prefix _).subset h)⟩

namespace Filler

theorem not_counts (h : Filler line) : ¬ Counts (clean line) := by
  rw [clean_eq_bare h.marked]
  rintro ⟨hne, hnone⟩
  exact h.void.elim hne hnone

theorem read_eq (h : Filler line) : Line.read line = .void := Line.read_eq_void h.not_counts

/-- A filler is no plain command either. -/
theorem not_hyphen (h : Filler line) : '-' ∉ line := by
  have hbare : '-' ∉ bare line := by
    rcases h.void with hnil | hnone
    · rw [hnil]
      exact List.not_mem_nil
    · -- a hyphen would be left in the lowercase form
      intro hmem
      have hascii : ∀ c ∈ lowerList (bare line), c.toNat < 0x80 := by
        rw [hnone]
        simp
      have hlower : lowerChar '-' ∈ lowerList (bare line) := by
        rw [lowerList_eq_map hascii]
        exact List.mem_map_of_mem hmem
      rw [hnone] at hlower
      exact absurd hlower (by decide +kernel)
  -- neither marker has a hyphen, and no hyphen is trimmed off
  intro hmem
  apply hbare
  rw [bare]
  apply mem_trim (by decide)
  rcases h.marked with ⟨cs, hcs⟩ | ⟨cs, hcs⟩
  · subst hcs
    simpa using hmem
  · subst hcs
    have hnot : ¬ ['/', '/'] <+: ['#'] ++ cs := by simp
    rw [if_neg hnot]
    simpa using hmem

end Filler

section Fillers

variable (hnew : ∀ l ∈ new, Filler l)
include hnew

theorem foldl_fillers (r : Reading) : (new.map Line.read).foldl Reading.step r = r := by
  induction new with
  | nil => rfl
  | cons l new ih =>
    rw [List.forall_mem_cons] at hnew
    rw [List.map_cons, List.foldl_cons, hnew.1.read_eq]
    exact ih hnew.2

theorem plainCommands_fillers : plainCommands new = [] := by
  have hnone : new.filter (·.contains '-') = [] := by
    rw [List.filter_eq_nil_iff]
    intro l hl
    simpa using (hnew l hl).not_hyphen
  rw [plainCommands, hnone, List.map_nil]

/-- Inserting fillers does not change the record. -/
theorem ofLines_insert (xs ys : List (List Char)) :
    ofLines (xs ++ new ++ ys) = ofLines (xs ++ ys) := by
  simp only [ofLines, List.map_append, List.foldl_append, foldl_fillers hnew, plainCommands_append,
    plainCommands_fillers hnew, List.append_nil]

end Fillers

theorem read_ofLineList_headerLines (text : String) :
    read (ofLineList (headerLines text)) = read text := by
  have hmarked : ∀ l ∈ headerLines text, decide (Marked l) = true := fun l hl =>
    decide_eq_true (mem_headerLines hl).1
  rw [read_eq_headerLines, headerLines_ofLineList fun l hl => (mem_headerLines hl).2,
    List.takeWhile_eq_self_iff.mpr hmarked, read_eq_headerLines]

theorem headerLines_of_line {before after : List (List Char)} (hline : ¬ Marked line)
    (htext : text.toList.splitOn '\n' = before ++ line :: after) :
    headerLines text = before.takeWhile fun l => Marked l := by
  rw [headerLines, htext, List.takeWhile_append,
    List.takeWhile_cons_of_neg (by simpa using hline)]
  split_ifs with hall
  · rw [List.append_nil, (List.takeWhile_prefix _).eq_of_length hall]
  · rfl

theorem read_insertLines (hi : i ≤ (headerLines text).length) (hnew : ∀ l ∈ new, Filler l) :
    read (insertLines i new text) = read text := by
  obtain ⟨hinsert, hheader⟩ := Lists.takeWhile_insert hi fun l hl =>
    decide_eq_true (hnew l hl).marked
  have hlines : ∀ l ∈ (text.toList.splitOn '\n').take i ++ new ++ (text.toList.splitOn '\n').drop i,
      '\n' ∉ l := by
    intro l hl
    rw [List.mem_append, List.mem_append] at hl
    rcases hl with (hl | hl) | hl
    · exact not_mem_of_mem_splitOn (List.mem_of_mem_take hl)
    · exact (hnew l hl).one_line
    · exact not_mem_of_mem_splitOn (List.mem_of_mem_drop hl)
  rw [read_eq_headerLines, insertLines, headerLines_ofLineList hlines, hinsert,
    ofLines_insert hnew, read_eq_headerLines, headerLines, hheader]

/-- Only the header of a text counts: changing what follows the first line that is no comment, or
inserting fillers anywhere in the header, does not change the record. -/
theorem read_header_alone (text : String) :
    read (ofLineList (headerLines text)) = read text ∧
    (∀ (text' : String) before line after after', ¬ Marked line →
      text.toList.splitOn '\n' = before ++ line :: after →
      text'.toList.splitOn '\n' = before ++ line :: after' → read text' = read text) ∧
    ∀ i ≤ (headerLines text).length, ∀ new : List (List Char), (∀ l ∈ new, Filler l) →
      read (insertLines i new text) = read text := by
  refine ⟨read_ofLineList_headerLines text, ?_, fun i hi new hnew => read_insertLines hi hnew⟩
  intro text' before line after after' hline htext htext'
  rw [read_eq_headerLines, headerLines_of_line hline htext', read_eq_headerLines,
    headerLines_of_line hline htext]

/-- Fillers with several spaces after the one command of a header without headings. -/
theorem read_header_alone_plain :
    let text := "# ping - pong\nrobot - hears\n# Tags:"
    let fillers := ["//\t ".toList, "#\x0c NoNe".toList]
    ¬ Marked "robot - hears".toList ∧
      text.toList.splitOn '\n' =
        ["# ping - pong".toList] ++ "robot - hears".toList :: ["# Tags:".toList] ∧
      (∀ l ∈ fillers, Filler l) ∧
      insertLines 1 fillers text = "# ping - pong\n//\t \n#\x0c NoNe\nrobot - hears\n# Tags:" ∧
      read (insertLines 1 fillers text) = read text ∧
      read "# ping - pong\nrobot - hears" = read text := by
  intro text fillers
  have hline : ¬ Marked "robot - hears".toList := by decide
  have htext : text.toList.splitOn '\n' =
      ["# ping - pong".toList] ++ "robot - hears".toList :: ["# Tags:".toList] := by decide +kernel
  have hfillers : ∀ l ∈ fillers, Filler l := by decide +kernel
  obtain ⟨-, hafter, hinsert⟩ := read_header_alone text
  exact ⟨hline, htext, hfillers, by decide +kernel, hinsert 1 (by decide +kernel) fillers hfillers,
    hafter _ _ _ _ [] hline htext (by decide +kernel)⟩

end Header

end ScriptHelp
