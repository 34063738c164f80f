import Mathlib.Data.List.Infix
import ScriptHelp.Proofs.HeaderReading
import ScriptHelp.Proofs.TrimmedTexts

namespace ScriptHelp

namespace Text

variable {c : Char} {l xs ys cs : List Char} {ls : List (List Char)}

theorem lineList_intercalate (h : ∀ l ∈ ls, '\n' ∉ l) (hne : ls ≠ []) :
    lineList (['\n'].intercalate ls) = ls := by
  rw [lineList_eq_splitOn, List.splitOn_intercalate _ h hne]

theorem lineList_append_lineFeed (xs ys : List Char) :
    lineList (xs ++ '\n' :: ys) = lineList xs ++ lineList ys := by
  simp only [lineList, pieces_eq_splitOnP]
  exact List.splitOnP_append_cons xs ys (decide_eq_true rfl)

theorem lineList_ne_nil (cs : List Char) : lineList cs ≠ [] := by
  rw [lineList, pieces_eq_splitOnP]
  exact List.splitOnP_ne_nil _ cs

theorem lineList_cons (hc : c ≠ '\n') (cs : List Char) :
    ∃ l ls, lineList cs = l :: ls ∧ lineList (c :: cs) = (c :: l) :: ls := by
  cases h : lineList cs with
  | nil => exact absurd h (lineList_ne_nil cs)
  | cons l ls =>
    refine ⟨l, ls, rfl, ?_⟩
    rw [lineList] at h ⊢
    rw [pieces, if_neg (by simpa using hc), h]

theorem not_mem_of_mem_lineList (h : l ∈ lineList cs) : '\n' ∉ l := by
  induction cs generalizing l with
  | nil =>
    rw [List.mem_singleton.mp h]
    exact List.not_mem_nil
  | cons c cs ih =>
    by_cases hc : c = '\n'
    · subst hc
      have hcut : lineList ('\n' :: cs) = [] :: lineList cs := lineList_append_lineFeed [] cs
      rw [hcut] at h
      rcases List.mem_cons.mp h with rfl | h
      · exact List.not_mem_nil
      · exact ih h
    · obtain ⟨k, ks, hcs, hccs⟩ := lineList_cons hc cs
      rw [hccs] at h
      rcases List.mem_cons.mp h with rfl | h
      · have hk : '\n' ∉ k := ih (hcs ▸ List.mem_cons_self)
        rw [List.mem_cons, not_or]
        exact ⟨Ne.symm hc, hk⟩
      · exact ih (hcs ▸ List.mem_cons_of_mem k h)

end Text

namespace Header

open Text

variable {l cs : List Char} {ls : List (List Char)}

/-- The record of comment lines: their sections, or without headings their plain commands. -/
def ofLines (ls : List (List Char)) : Record :=
  let reading := (ls.map Line.read).foldl Reading.step {}
  match reading.current with
  | some _ => reading.record
  | none => { commands := plainCommands ls }

theorem read_eq_ofLines (text : String) : read text = ofLines (block text.toList) := rfl

/-- No section is open iff no heading has been met. -/
theorem current_eq_none_iff (ls : List (List Char)) :
    ((ls.map Line.read).foldl Reading.step {}).current = none ↔ ∀ l ∈ ls, ¬ OpensAny (clean l) := by
  rw [(Follows.lines_read ls).outside]
  simp

theorem ofLines_nil : ofLines [] = {} := rfl

theorem prefix_of_lineList (h : lineList cs = l :: ls) : l <+: cs := by
  induction cs generalizing l ls with
  | nil =>
    rw [← (List.cons.inj h).1]
  | cons c cs ih =>
    by_cases hc : c = '\n'
    · subst hc
      have hcut : lineList ('\n' :: cs) = [] :: lineList cs := lineList_append_lineFeed [] cs
      rw [← (List.cons.inj (hcut.symm.trans h)).1]
      exact List.nil_prefix
    · obtain ⟨k, ks, hcs, hccs⟩ := lineList_cons hc cs
      rw [← (List.cons.inj (hccs.symm.trans h)).1]
      exact List.cons_prefix_cons.mpr ⟨rfl, ih hcs⟩

theorem block_eq_nil (h : ¬ Marked cs) : block cs = [] := by
  cases hcs : lineList cs with
  | nil => exact absurd hcs (lineList_ne_nil cs)
  | cons l ls =>
    have hl : ¬ isComment l = true := by
      rw [isComment_iff]
      intro hmarked
      have hp : l <+: cs := prefix_of_lineList hcs
      exact h (hmarked.imp (·.trans hp) (·.trans hp))
    rw [block, hcs, List.takeWhile_cons_of_neg hl]

theorem mem_block (h : l ∈ block cs) : isComment l = true ∧ '\n' ∉ l :=
  ⟨List.mem_takeWhile_imp h, not_mem_of_mem_lineList ((List.takeWhile_prefix _).subset h)⟩

end Header

end ScriptHelp
