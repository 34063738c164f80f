import ScriptHelp.Proofs.HeaderLines
import ScriptHelp.Proofs.LetterCase

namespace ScriptHelp

namespace Text

variable {c : Char} {before cs : List Char}

theorem mem_lowerAfter (h : isWhitespace c = true) (hc : c ∈ cs) : c ∈ lowerAfter before cs := by
  induction cs generalizing before with
  | nil => exact absurd hc List.not_mem_nil
  | cons d cs ih =>
    rw [lowerAfter, List.mem_append]
    rcases List.mem_cons.mp hc with rfl | hc
    · rw [lowerForm_of_isWhitespace h]
      exact .inl List.mem_cons_self
    · exact .inr (ih hc)

end Text

namespace Header

open Text

inductive Marker
  | slashes
  | hash
  deriving DecidableEq, Repr

def Marker.chars : Marker → List Char
  | .slashes => ['/', '/']
  | .hash => ['#']

structure Gap where
  chars : List Char
  whitespace : ∀ c ∈ chars, isWhitespace c = true ∧ c ≠ '\n'

structure Style where
  marker : Marker
  before : Gap
  after : Gap

def Style.comment (st : Style) (cs : List Char) : List Char :=
  st.marker.chars ++ (st.before.chars ++ cs ++ st.after.chars)

/-- Every choice in writing a record. The first style of a section is that of its heading. -/
structure Layout where
  order : List Section
  complete : ∀ s, s ∈ order
  heading : Section → List Char
  opens : ∀ s, Opens s (heading s)
  style : Section → Nat → Style

namespace Layout

def sectionLines (L : Layout) (s : Section) (ls : List String) : List (List Char) :=
  (L.style s 0).comment (L.heading s) :: ls.mapIdx fun i l => (L.style s (i + 1)).comment l.toList

def lines (L : Layout) (r : Record) : List (List Char) :=
  (L.order.filter fun s => r.get s ≠ []).flatMap fun s => L.sectionLines s (r.get s)

def render (L : Layout) (r : Record) : List Char := ['\n'].intercalate (L.lines r)

end Layout

/-- The line is trimmed, no placeholder and no heading, and has no line feed. -/
structure Sayable (l : String) : Prop where
  ne_empty : l ≠ ""
  stripped : strip l = l
  one_line : '\n' ∉ l.toList
  not_placeholder : lower l ≠ "none"
  not_heading : ¬ OpensAny l.toList

instance : DecidablePred Sayable := fun l =>
  decidable_of_iff (l ≠ "" ∧ strip l = l ∧ '\n' ∉ l.toList ∧ lower l ≠ "none" ∧ ¬ OpensAny l.toList)
    ⟨fun ⟨h₁, h₂, h₃, h₄, h₅⟩ => ⟨h₁, h₂, h₃, h₄, h₅⟩,
      fun ⟨h₁, h₂, h₃, h₄, h₅⟩ => ⟨h₁, h₂, h₃, h₄, h₅⟩⟩

/-- Nothing follows, or a line that is no comment with anything after it. -/
def EndsBlock (tail : List Char) : Prop := tail = [] ∨ ∃ code, tail = '\n' :: code ∧ ¬ Marked code

variable {s t : Section} {cs tail : List Char} {l : String} {ls : List String} {r : Record}

theorem Opens.not_whitespace (h : Opens s cs) : ∀ c ∈ cs, isWhitespace c = false := by
  have hall : ∀ t ∈ Section.all, ∀ n ∈ t.headings, ∀ ds ∈ [n.toList, n.toList ++ [':']],
      ds.any isWhitespace = false := by decide +kernel
  obtain ⟨n, hn, hlower⟩ := h
  intro c hc
  by_contra hspace
  rw [Bool.not_eq_false] at hspace
  have hmem : c ∈ lowerList cs := mem_lowerAfter hspace hc
  have hnone := hall s (Section.mem_all s) n hn (lowerList cs) (by simpa using hlower)
  have hnot := List.any_eq_false.mp hnone c hmem
  exact hnot hspace

namespace Style

variable (st : Style)

theorem afterMarker?_comment (cs : List Char) :
    afterMarker? (st.comment cs) = some (st.before.chars ++ cs ++ st.after.chars) := by
  unfold comment
  cases st.marker <;> rfl

theorem isComment_comment (cs : List Char) : isComment (st.comment cs) = true := by
  rw [isComment, afterMarker?_comment]
  rfl

theorem clean_comment (cs : List Char) : clean (st.comment cs) = trim cs := by
  rw [clean, afterMarker?_comment]
  exact trim_pad (fun c hc => (st.before.whitespace c hc).1)
    fun c hc => (st.after.whitespace c hc).1

theorem not_mem_comment (h : '\n' ∉ cs) : '\n' ∉ st.comment cs := by
  have hmarker : '\n' ∉ st.marker.chars := by cases st.marker <;> decide
  have hbefore : '\n' ∉ st.before.chars := fun hmem => (st.before.whitespace _ hmem).2 rfl
  have hafter : '\n' ∉ st.after.chars := fun hmem => (st.after.whitespace _ hmem).2 rfl
  simp only [comment, List.mem_append, not_or]
  exact ⟨hmarker, ⟨hbefore, h⟩, hafter⟩

theorem read_heading (h : Opens s cs) : Line.read (st.comment cs) = .heading s := by
  apply Line.read_eq_heading
  rwa [clean_comment, trim_of_not_whitespace h.not_whitespace]

theorem read_line (h : Sayable l) : Line.read (st.comment l.toList) = .text l := by
  have hclean : clean (st.comment l.toList) = l.toList := by
    rw [clean_comment]
    conv_rhs => rw [← h.stripped, strip, String.toList_ofList]
  have hcounts : Counts l.toList := by
    refine ⟨?_, ?_⟩
    · rw [ne_eq, String.toList_eq_nil_iff]
      exact h.ne_empty
    · intro hnone
      apply h.not_placeholder
      rw [lower, hnone]
  have hheading := h.not_heading
  rw [← hclean] at hcounts hheading
  rw [Line.read_eq_text hcounts hheading, hclean, String.ofList_toList]

end Style

theorem foldl_text (s : Section) (r : Record) (ls : List String) :
    (ls.map Line.text).foldl Reading.step ⟨some s, r⟩ = ⟨some s, r.update s (· ++ ls)⟩ := by
  induction ls generalizing r with
  | nil =>
    have hsame : r.update s (· ++ []) = r := Record.ext_get fun t => by simp [Record.get_update]
    rw [hsame]
    rfl
  | cons l ls ih =>
    have hstep : Reading.step ⟨some s, r⟩ (.text l) = ⟨some s, r.update s (· ++ [l])⟩ := rfl
    have htwice : (r.update s (· ++ [l])).update s (· ++ ls) = r.update s (· ++ l :: ls) := by
      apply Record.ext_get
      intro t
      simp only [Record.get_update]
      split_ifs
      · rw [List.append_assoc, List.singleton_append]
      · rfl
    rw [List.map_cons, List.foldl_cons, hstep, ih, htwice]

theorem get_foldl_section (rd : Reading) (s t : Section) (ls : List String) :
    ((Line.heading s :: ls.map Line.text).foldl Reading.step rd).record.get t =
      if t = s then ls else rd.record.get t := by
  have hstep : rd.step (.heading s) = ⟨some s, rd.record.update s fun _ => []⟩ := rfl
  rw [List.foldl_cons, hstep, foldl_text]
  simp only [Record.get_update]
  split_ifs <;> rfl

/-- Written in any order, each section keeps its lines. -/
theorem get_foldl_sections (r : Record) (order : List Section) (rd : Reading) (t : Section) :
    ((order.flatMap fun s => Line.heading s :: (r.get s).map Line.text).foldl Reading.step
      rd).record.get t = if t ∈ order then r.get t else rd.record.get t := by
  induction order generalizing rd with
  | nil => simp
  | cons s order ih =>
    -- a section that comes again says the same again
    rw [List.flatMap_cons, List.foldl_append, ih, get_foldl_section]
    by_cases horder : t ∈ order
    · simp [horder]
    · by_cases hts : t = s
      · simp [hts]
      · simp [horder, hts]

namespace Layout

variable (L : Layout)

theorem read_sectionLines (h : ∀ l ∈ ls, Sayable l) :
    (L.sectionLines s ls).map Line.read = .heading s :: ls.map Line.text := by
  rw [sectionLines, List.map_cons, (L.style s 0).read_heading (L.opens s)]
  congr 1
  apply List.ext_getElem?
  intro i
  rw [List.getElem?_map, List.getElem?_mapIdx, List.getElem?_map]
  cases hl : ls[i]? with
  | none => rfl
  | some l => exact congrArg some ((L.style s (i + 1)).read_line (h l (List.mem_of_getElem? hl)))

theorem read_lines (hr : ∀ s, ∀ l ∈ r.get s, Sayable l) : (L.lines r).map Line.read =
    (L.order.filter fun s => r.get s ≠ []).flatMap fun s =>
      Line.heading s :: (r.get s).map Line.text := by
  rw [lines, List.map_flatMap]
  congr 1
  funext s
  exact L.read_sectionLines (hr s)

/-- Every written line is a comment without a line feed. -/
theorem comment_of_mem_lines (hr : ∀ s, ∀ l ∈ r.get s, Sayable l) {line : List Char}
    (h : line ∈ L.lines r) : isComment line = true ∧ '\n' ∉ line := by
  obtain ⟨s, -, h⟩ := List.mem_flatMap.mp h
  rcases List.mem_cons.mp h with rfl | h
  · refine ⟨Style.isComment_comment _ _, Style.not_mem_comment _ fun hmem => ?_⟩
    have hspace := (L.opens s).not_whitespace _ hmem
    exact absurd hspace (by decide)
  · obtain ⟨i, hi, rfl⟩ := List.mem_mapIdx.mp h
    exact ⟨Style.isComment_comment _ _,
      Style.not_mem_comment _ (hr s _ (List.getElem_mem hi)).one_line⟩

/-- The header block of the text is what was written, whatever follows it. -/
theorem block_render (hr : ∀ s, ∀ l ∈ r.get s, Sayable l) (ht : EndsBlock tail) :
    block (L.render r ++ tail) = L.lines r := by
  have hall : ∀ line ∈ L.lines r, isComment line = true := fun line h =>
    (L.comment_of_mem_lines hr h).1
  have htail : ∀ code, ¬ Marked code → (lineList code).takeWhile isComment = [] :=
    fun code hcode => block_eq_nil hcode
  by_cases hne : L.lines r = []
  · have hrender : L.render r = [] := by
      rw [render, hne]
      rfl
    rw [hrender, hne, List.nil_append]
    apply block_eq_nil
    rcases ht with rfl | ⟨code, rfl, -⟩ <;> simp [Marked]
  · have hlines : lineList (L.render r) = L.lines r :=
      lineList_intercalate (fun line h => (L.comment_of_mem_lines hr h).2) hne
    rcases ht with rfl | ⟨code, rfl, hcode⟩
    · rw [List.append_nil, block, hlines]
      exact List.takeWhile_eq_self_iff.mpr hall
    · rw [block, lineList_append_lineFeed, hlines, List.takeWhile_append_of_pos hall,
        htail code hcode, List.append_nil]

/-- Written lines without a heading are none. -/
theorem lines_eq_nil_of_forall (h : ∀ line ∈ L.lines r, ¬ OpensAny (clean line)) :
    L.lines r = [] := by
  rw [lines, List.flatMap_eq_nil_iff]
  intro s hs
  by_contra _
  apply h ((L.style s 0).comment (L.heading s))
  · exact List.mem_flatMap.mpr ⟨s, hs, List.mem_cons_self⟩
  · refine ⟨s, Section.mem_all s, ?_⟩
    rw [Style.clean_comment, trim_of_not_whitespace (L.opens s).not_whitespace]
    exact L.opens s

end Layout

/-- A record of sayable lines is read back from every layout. -/
theorem read_render (L : Layout) {r : Record} {tail : List Char}
    (hr : ∀ s, ∀ l ∈ r.get s, Sayable l) (ht : EndsBlock tail) :
    read (String.ofList (L.render r ++ tail)) = r := by
  have hlines : read (String.ofList (L.render r ++ tail)) = ofLines (L.lines r) := by
    rw [read_eq_ofLines, String.toList_ofList, L.block_render hr ht]
  have hget : ∀ t, (((L.lines r).map Line.read).foldl Reading.step {}).record.get t = r.get t := by
    intro t
    rw [L.read_lines hr, get_foldl_sections]
    split_ifs with hmem
    · rfl
    · have hnone : r.get t = [] := by simpa [L.complete t] using hmem
      rw [hnone]
      cases t <;> rfl
  have hrecord := Record.ext_get hget
  rw [hlines, ofLines]
  cases hcurrent : (((L.lines r).map Line.read).foldl Reading.step {}).current with
  | some s => exact hrecord
  | none =>
    -- without a heading nothing has been written
    have hnil : L.lines r = [] :=
      L.lines_eq_nil_of_forall ((current_eq_none_iff _).mp hcurrent)
    rw [hnil] at hrecord ⊢
    exact hrecord

def Gap.tab : Gap where
  chars := ['\t']
  whitespace := fun c hc => by
    obtain rfl := List.mem_singleton.mp hc
    decide

def Layout.backwards : Layout where
  order := Section.all.reverse
  complete := fun s => List.mem_reverse.mpr (Section.mem_all s)
  heading := fun s => if s = .author then "AuThOrS:".toList else s.name.toList
  opens := by
    have hall : ∀ s ∈ Section.all,
        Opens s (if s = .author then "AuThOrS:".toList else s.name.toList) := by decide +kernel
    exact fun s => hall s (Section.mem_all s)
  style := fun _ i => ⟨if i = 0 then .hash else .slashes, ⟨[], by simp⟩, .tab⟩

/-- Lines that look like comments or end like headings are read back. -/
theorem read_render_backwards :
    let r : Record := { commands := ["# open:", "// shut"], author := ["none other"] }
    let tail := '\n' :: "robot // hears\n# Tags:".toList
    (∀ s, ∀ l ∈ r.get s, Sayable l) ∧ EndsBlock tail ∧
      String.ofList (Layout.backwards.render r) =
        "#AuThOrS:\t\n//none other\t\n#commands\t\n//# open:\t\n//// shut\t" ∧
      read (String.ofList (Layout.backwards.render r ++ tail)) = r := by
  intro r tail
  have hall : ∀ s ∈ Section.all, ∀ l ∈ r.get s, Sayable l := by decide +kernel
  have hr : ∀ s, ∀ l ∈ r.get s, Sayable l := fun s => hall s (Section.mem_all s)
  have ht : EndsBlock tail := .inr ⟨_, rfl, by decide⟩
  exact ⟨hr, ht, by decide +kernel, read_render Layout.backwards hr ht⟩

end Header

end ScriptHelp
