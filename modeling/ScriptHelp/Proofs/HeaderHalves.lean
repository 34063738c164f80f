import ScriptHelp.Proofs.HeaderFillers
import ScriptHelp.Proofs.RecordMerge

namespace ScriptHelp

namespace Header

open Text Record

variable {s : Section} {xs ys : List (List Char)} {A B : String}

theorem afterLast_append_of_opens (h : ∃ l ∈ ys, Opens s l) :
    afterLast s (xs ++ ys) = afterLast s ys := by
  rw [afterLast, List.rtakeWhile, List.reverse_append, List.takeWhile_append, if_neg]
  · rfl
  · intro hlength
    obtain ⟨l, hl, hopens⟩ := h
    have hall := (List.takeWhile_prefix _).eq_of_length hlength
    rw [List.takeWhile_eq_self_iff] at hall
    simpa [hopens] using hall l (List.mem_reverse.mpr hl)

theorem afterLast_append (h : ∀ l ∈ ys, ¬ Opens s l) :
    afterLast s (xs ++ ys) = afterLast s xs ++ ys := by
  have hall : ∀ l ∈ ys.reverse, decide (¬ Opens s l) = true := fun l hl =>
    decide_eq_true (h l (List.mem_reverse.mp hl))
  rw [afterLast, List.rtakeWhile, List.reverse_append, List.takeWhile_append_of_pos hall,
    List.reverse_append, List.reverse_reverse]
  rfl

/-- The first line that counts is a heading, if any line counts. -/
def StartsOpen (cleaned : List (List Char)) : Prop :=
  ∀ l ∈ cleaned.find? fun l => Counts l, OpensAny l

instance : DecidablePred StartsOpen := fun cleaned =>
  inferInstanceAs (Decidable (∀ l ∈ cleaned.find? fun l => Counts l, OpensAny l))

theorem filter_takeWhile_of_startsOpen (h : StartsOpen ys) :
    (ys.takeWhile fun l => ¬ OpensAny l).filter Counts = [] := by
  induction ys with
  | nil => rfl
  | cons l ys ih =>
    by_cases hl : Counts l
    · have hopens : OpensAny l := h l (by simp [hl])
      rw [List.takeWhile_cons_of_neg (by simpa using hopens), List.filter_nil]
    · have hnot : ¬ OpensAny l := fun ⟨t, _, ht⟩ => hl ht.counts
      have hrest : StartsOpen ys := fun m hm => h m (by simpa [hl] using hm)
      rw [List.takeWhile_cons_of_pos (by simpa using hnot),
        List.filter_cons_of_neg (by simpa using hl), ih hrest]

theorem told_of_not_opens (h : ∀ l ∈ xs, ¬ Opens s l) : told s xs = [] := by
  rw [told, if_neg]
  rintro ⟨l, hl, hopens⟩
  exact h l hl hopens

theorem told_append_of_opens (h : ∃ l ∈ ys, Opens s l) : told s (xs ++ ys) = told s ys := by
  have hboth : ∃ l ∈ xs ++ ys, Opens s l := h.imp fun l hl => ⟨List.mem_append_right xs hl.1, hl.2⟩
  rw [told, told, if_pos hboth, if_pos h, afterLast_append_of_opens h]

/-- Lines that start with a heading add nothing to the section left open. -/
theorem told_append_of_not_opens (hstart : StartsOpen ys) (h : ∀ l ∈ ys, ¬ Opens s l) :
    told s (xs ++ ys) = told s xs := by
  have hiff : (∃ l ∈ xs ++ ys, Opens s l) ↔ ∃ l ∈ xs, Opens s l := by
    simp only [List.mem_append, or_and_right, exists_or]
    exact or_iff_left fun ⟨l, hl, hopens⟩ => h l hl hopens
  -- the new lines are reached only if no other section has been opened since
  simp only [told, hiff, afterLast_append h, List.takeWhile_append]
  split_ifs with hopens hall
  · have hwhole := (List.takeWhile_prefix _).eq_of_length hall
    rw [List.filter_append, filter_takeWhile_of_startsOpen hstart, List.append_nil, hwhole]
  · rfl
  · rfl

theorem told_append (hstart : StartsOpen ys)
    (hapart : (∃ l ∈ xs, Opens s l) → ∀ l ∈ ys, ¬ Opens s l) :
    told s (xs ++ ys) = told s xs ++ told s ys := by
  by_cases hys : ∃ l ∈ ys, Opens s l
  · have hxs : ∀ l ∈ xs, ¬ Opens s l := by
      intro l hl hopens
      obtain ⟨m, hm, hopens'⟩ := hys
      exact hapart ⟨l, hl, hopens⟩ m hm hopens'
    rw [told_append_of_opens hys, told_of_not_opens hxs, List.nil_append]
  · have hnone : ∀ l ∈ ys, ¬ Opens s l := fun l hl hopens => hys ⟨l, hl, hopens⟩
    rw [told_append_of_not_opens hstart hnone, told_of_not_opens hnone, List.append_nil]

def bareLines (text : String) : List (List Char) := (headerLines text).map bare

theorem bareLines_eq_map_clean (text : String) :
    bareLines text = (headerLines text).map clean :=
  List.map_congr_left fun _ hl => (clean_eq_bare (mem_headerLines hl).1).symm

/-- With a heading, each section has the lines under its last heading. -/
theorem get_read_of_opensAny {text : String} (h : ∃ l ∈ bareLines text, OpensAny l) (s : Section) :
    (read text).get s = told s (bareLines text) := by
  have hfollows := Follows.lines_read (headerLines text)
  rw [← bareLines_eq_map_clean] at hfollows
  obtain ⟨l, hl, hopens⟩ := h
  rw [read_eq_headerLines, ofLines]
  cases hcurrent : ((headerLines text).map Line.read |>.foldl Reading.step {}).current with
  | none => exact absurd hopens (hfollows.outside.mp hcurrent l hl)
  | some t => exact hfollows.lines s

/-- Without lines before its first heading, a text has no plain commands. -/
theorem get_read_of_startsOpen {text : String} (h : StartsOpen (bareLines text)) (s : Section) :
    (read text).get s = told s (bareLines text) := by
  by_cases hopens : ∃ l ∈ bareLines text, OpensAny l
  · exact get_read_of_opensAny hopens s
  · -- no line counts, so all of them are fillers
    have hnone : ∀ l ∈ bareLines text, ¬ Counts l := by
      cases hfind : (bareLines text).find? fun l => Counts l with
      | none => simpa using hfind
      | some l => exact absurd ⟨l, List.mem_of_find?_eq_some hfind, h l hfind⟩ hopens
    have hfillers : ∀ l ∈ headerLines text, Filler l := by
      intro l hl
      have hvoid := hnone (bare l) (List.mem_map_of_mem hl)
      rw [Counts, not_and_or, not_not, not_not] at hvoid
      exact ⟨(mem_headerLines hl).1, (mem_headerLines hl).2, hvoid⟩
    have hread : read text = {} := by
      have h := ofLines_insert hfillers [] []
      rwa [List.nil_append, List.append_nil, List.nil_append, ofLines_nil,
        ← read_eq_headerLines] at h
    have htold : told s (bareLines text) = [] :=
      told_of_not_opens fun l hl ho => hopens ⟨l, hl, ho.any⟩
    rw [hread, htold]
    cases s <;> rfl

def OnlyComments (text : String) : Prop := ∀ l ∈ text.toList.splitOn '\n', Marked l

instance : DecidablePred OnlyComments := fun text =>
  inferInstanceAs (Decidable (∀ l ∈ text.toList.splitOn '\n', Marked l))

theorem headerLines_of_onlyComments {text : String} (h : OnlyComments text) :
    headerLines text = text.toList.splitOn '\n' :=
  List.takeWhile_eq_self_iff.mpr fun l hl => decide_eq_true (h l hl)

theorem bareLines_joined (hA : OnlyComments A) (hB : OnlyComments B) :
    bareLines (A ++ "\n" ++ B) = bareLines A ++ bareLines B := by
  have hsplit : (A ++ "\n" ++ B).toList.splitOn '\n' =
      A.toList.splitOn '\n' ++ B.toList.splitOn '\n' := by
    rw [String.toList_append, String.toList_append, List.append_assoc, ← lineList_eq_splitOn,
      ← lineList_eq_splitOn, ← lineList_eq_splitOn]
    exact lineList_append_lineFeed A.toList B.toList
  have hall : OnlyComments (A ++ "\n" ++ B) := by
    intro l hl
    rw [hsplit, List.mem_append] at hl
    exact hl.elim (hA l) (hB l)
  rw [bareLines, headerLines_of_onlyComments hall, hsplit, List.map_append, bareLines, bareLines,
    headerLines_of_onlyComments hA, headerLines_of_onlyComments hB]

/-- The records of two halves merge to the record of the whole without its repeated lines. -/
theorem merge?_read_halves {A B : String} (hA : OnlyComments A) (hB : OnlyComments B)
    (hopens : ∃ l ∈ bareLines A, OpensAny l) (hstart : StartsOpen (bareLines B))
    (hapart : ∀ s, (∃ l ∈ bareLines A, Opens s l) → ∀ l ∈ bareLines B, ¬ Opens s l) :
    ∃ m, merge? (some (read A)) (some (read B)) = some m ∧
      merge? (some (read (A ++ "\n" ++ B))) (some {}) = some m ∧
      ∀ s, FirstsOf (m.get s) ((read (A ++ "\n" ++ B)).get s) := by
  have hlines := bareLines_joined hA hB
  have hwhole : ∃ l ∈ bareLines (A ++ "\n" ++ B), OpensAny l := by
    obtain ⟨l, hl, ho⟩ := hopens
    exact ⟨l, hlines ▸ List.mem_append_left _ hl, ho⟩
  have hjoined : ∀ s, (read (A ++ "\n" ++ B)).get s = (read A).get s ++ (read B).get s := by
    intro s
    rw [get_read_of_opensAny hwhole, get_read_of_opensAny hopens, get_read_of_startsOpen hstart,
      hlines, told_append hstart (hapart s)]
  refine ⟨(read A).merge (read B), rfl, congrArg some (ext_get fun s => ?_), fun s => ?_⟩
  · have hempty : ({} : Record).get s = [] := by cases s <;> rfl
    rw [get_merge, get_merge, hjoined, hempty, List.append_nil]
  · rw [get_merge, hjoined]
    exact firstsOf_firsts _

theorem merge?_read_halves_doors :
    let A := "# Doors\n// Commands:\n# hubot open\n# hubot open\n# Notes:"
    let B := "#\n# NONE\n// Authors\n# b\n# a\n# b"
    OnlyComments A ∧ OnlyComments B ∧ (∃ l ∈ bareLines A, OpensAny l) ∧
      StartsOpen (bareLines B) ∧
      (∀ s, (∃ l ∈ bareLines A, Opens s l) → ∀ l ∈ bareLines B, ¬ Opens s l) ∧
      merge? (some (read A)) (some (read B)) =
        some { commands := ["hubot open"], author := ["b", "a"] } ∧
      merge? (some (read (A ++ "\n" ++ B))) (some {}) =
        some { commands := ["hubot open"], author := ["b", "a"] } := by
  intro A B
  have hA : OnlyComments A := by decide +kernel
  have hB : OnlyComments B := by decide +kernel
  have hopens : ∃ l ∈ bareLines A, OpensAny l := by decide +kernel
  have hstart : StartsOpen (bareLines B) := by decide +kernel
  have hapart : ∀ s, (∃ l ∈ bareLines A, Opens s l) → ∀ l ∈ bareLines B, ¬ Opens s l := by
    have hall : ∀ s ∈ Section.all, (∃ l ∈ bareLines A, Opens s l) →
        ∀ l ∈ bareLines B, ¬ Opens s l := by decide +kernel
    exact fun s => hall s (Section.mem_all s)
  obtain ⟨m, hm, hjoined, -⟩ := merge?_read_halves hA hB hopens hstart hapart
  have hrecord : m = { commands := ["hubot open"], author := ["b", "a"] } := by
    rw [← Option.some.inj hm]
    decide +kernel
  exact ⟨hA, hB, hopens, hstart, hapart, hrecord ▸ hm, hrecord ▸ hjoined⟩

end Header

end ScriptHelp
