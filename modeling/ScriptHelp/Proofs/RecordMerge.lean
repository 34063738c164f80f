import Mathlib.Data.List.Basic
import ScriptHelp.Record

namespace ScriptHelp

namespace Record

section Firsts

variable {α : Type} [DecidableEq α]

/-- The first list has the elements of the second, each once and in the order of first occurrence.
-/
def FirstsOf (xs ys : List α) : Prop :=
  xs.Pairwise (fun a b => ys.idxOf a < ys.idxOf b) ∧ ∀ a, a ∈ xs ↔ a ∈ ys

@[simp] theorem mem_firsts {a : α} {ls : List α} : a ∈ firsts ls ↔ a ∈ ls := by
  induction ls with
  | nil => rfl
  | cons l ls ih =>
    by_cases h : a = l <;> simp [firsts, ih, h]

theorem nodup_firsts (ls : List α) : (firsts ls).Nodup := by
  induction ls with
  | nil => exact List.nodup_nil
  | cons l ls ih =>
    rw [firsts, List.nodup_cons]
    exact ⟨by simp, ih.filter _⟩

theorem firsts_of_nodup {ls : List α} (h : ls.Nodup) : firsts ls = ls := by
  induction ls with
  | nil => rfl
  | cons l ls ih =>
    obtain ⟨hl, hn⟩ := List.nodup_cons.mp h
    rw [firsts, ih hn, List.filter_eq_self.mpr]
    intro a ha
    have hne : a ≠ l := fun e => hl (e ▸ ha)
    simpa using hne

theorem firsts_append (xs ys : List α) :
    firsts (xs ++ ys) = firsts xs ++ (firsts ys).filter (· ∉ xs) := by
  induction xs with
  | nil => simp [firsts]
  | cons x xs ih =>
    have hp : (fun a => decide (a ≠ x) && decide (a ∉ xs)) = fun a => decide (a ∉ x :: xs) := by
      funext a
      simp
    rw [List.cons_append, firsts, firsts, ih, List.filter_append, List.filter_filter, hp,
      List.cons_append]

theorem firsts_filter (p : α → Bool) (ls : List α) :
    firsts (ls.filter p) = (firsts ls).filter p := by
  induction ls with
  | nil => rfl
  | cons l ls ih =>
    rw [firsts]
    by_cases hl : p l = true
    · rw [List.filter_cons_of_pos hl, firsts, ih, List.filter_cons_of_pos hl, List.filter_filter,
        List.filter_filter]
      simp only [Bool.and_comm]
    · rw [List.filter_cons_of_neg hl, List.filter_cons_of_neg hl, ih, List.filter_filter]
      apply List.filter_congr
      intro a _
      have hne : p a = true → a ≠ l := fun ha e => hl (e ▸ ha)
      by_cases ha : p a = true <;> simp [ha, hne]

theorem firsts_append_firsts (xs ys : List α) : firsts (xs ++ firsts ys) = firsts (xs ++ ys) := by
  rw [firsts_append, firsts_append, firsts_of_nodup (nodup_firsts ys)]

theorem firsts_firsts_append (xs ys : List α) : firsts (firsts xs ++ ys) = firsts (xs ++ ys) := by
  rw [firsts_append, firsts_append, firsts_of_nodup (nodup_firsts xs)]
  simp only [mem_firsts]

theorem firstsOf_firsts (ls : List α) : FirstsOf (firsts ls) ls := by
  refine ⟨?_, fun a => mem_firsts⟩
  induction ls with
  | nil => exact List.Pairwise.nil
  | cons l ls ih =>
    have hidx : ∀ a, a ≠ l → (l :: ls).idxOf a = ls.idxOf a + 1 :=
      fun a ha => List.idxOf_cons_ne _ (Ne.symm ha)
    rw [firsts, List.pairwise_cons]
    constructor
    · intro a ha
      have hne : a ≠ l := by simpa using (List.mem_filter.mp ha).2
      rw [hidx a hne, List.idxOf_cons_self]
      omega
    · refine List.Pairwise.imp_of_mem ?_ (ih.filter _)
      intro a b ha hb hab
      have ha' : a ≠ l := by simpa using (List.mem_filter.mp ha).2
      have hb' : b ≠ l := by simpa using (List.mem_filter.mp hb).2
      rw [hidx a ha', hidx b hb']
      omega

theorem FirstsOf.nodup {xs ys : List α} (h : FirstsOf xs ys) : xs.Nodup := by
  refine h.1.imp ?_
  rintro a b hlt rfl
  exact Nat.lt_irrefl _ hlt

/-- The first occurrences of a list are unique. -/
theorem FirstsOf.eq_firsts {xs ys : List α} (h : FirstsOf xs ys) : xs = firsts ys := by
  have hperm : xs.Perm (firsts ys) := by
    rw [List.perm_ext_iff_of_nodup h.nodup (nodup_firsts ys)]
    intro a
    rw [h.2, mem_firsts]
  exact hperm.eq_of_pairwise (fun a b _ _ hab hba => absurd hba (Nat.lt_asymm hab)) h.1
    (firstsOf_firsts ys).1

end Firsts

@[simp] theorem get_merge (a b : Record) (s : Section) :
    (a.merge b).get s = firsts (a.get s ++ b.get s) := get_ofSections _ s

theorem merge_assoc (a b c : Record) : (a.merge b).merge c = a.merge (b.merge c) := by
  refine ext_get fun s => ?_
  simp only [get_merge]
  rw [firsts_firsts_append, firsts_append_firsts, List.append_assoc]

@[simp] theorem merge?_none_left (b : Option Record) : merge? none b = b := rfl

@[simp] theorem merge?_none_right (a : Option Record) : merge? a none = a := by cases a <;> rfl

@[simp] theorem merge?_some (a b : Record) : merge? (some a) (some b) = some (a.merge b) := rfl

theorem merge?_assoc (a b c : Option Record) :
    merge? (merge? a b) c = merge? a (merge? b c) := by
  cases a <;> cases b <;> cases c <;> simp [merge_assoc]

/-- The records merged from left to right; a lone record is unchanged. -/
def mergeAll (rs : List Record) : Option Record := rs.foldl (fun o r => merge? o (some r)) none

theorem foldl_merge? (o : Option Record) (rs : List Record) :
    rs.foldl (fun o r => merge? o (some r)) o = merge? o (mergeAll rs) := by
  induction rs generalizing o with
  | nil => simp [mergeAll]
  | cons r rs ih =>
    rw [mergeAll, List.foldl_cons, List.foldl_cons, ih, ih (merge? none (some r)), merge?_assoc,
      merge?_none_left]

theorem mergeAll_append (xs ys : List Record) :
    mergeAll (xs ++ ys) = merge? (mergeAll xs) (mergeAll ys) := by
  rw [mergeAll, List.foldl_append, foldl_merge?]
  rfl

theorem mergeAll_toList (o : Option Record) : mergeAll o.toList = o := by cases o <;> rfl

theorem mergeAll_cons_cons (a b : Record) (rs : List Record) : mergeAll (a :: b :: rs) =
    some (ofSections fun s => firsts ((a :: b :: rs).flatMap (·.get s))) := by
  induction rs generalizing a b with
  | nil => simp [mergeAll, merge]
  | cons c rs ih =>
    have hstep : mergeAll (a :: b :: c :: rs) = mergeAll (a.merge b :: c :: rs) := rfl
    rw [hstep, ih]
    congr 2
    funext s
    rw [List.flatMap_cons, get_merge, firsts_firsts_append]
    simp only [List.flatMap_cons, List.append_assoc]

/-- Several records merge to one that keeps every line at its first occurrence in their
concatenation. -/
theorem mergeAll_of_two_le {rs : List Record} (h : 2 ≤ rs.length) :
    ∃ m, mergeAll rs = some m ∧ ∀ s, FirstsOf (m.get s) (rs.flatMap (·.get s)) := by
  match rs, h with
  | a :: b :: rs, _ =>
    refine ⟨_, mergeAll_cons_cons a b rs, fun s => ?_⟩
    rw [get_ofSections]
    exact firstsOf_firsts _

theorem firsts_append_of_subset {xs ys : List String} (h : ys ⊆ xs) :
    firsts (xs ++ ys) = firsts xs := by
  have hold : (firsts ys).filter (· ∉ xs) = [] := by
    refine List.filter_eq_nil_iff.mpr fun a ha => ?_
    simpa using h (mem_firsts.mp ha)
  rw [firsts_append, hold, List.append_nil]

/-- Lines that were merged in before are all known. -/
theorem merge_eq_self {m r : Record} (hm : ∀ s, (m.get s).Nodup) (h : ∀ s, r.get s ⊆ m.get s) :
    m.merge r = m := by
  refine ext_get fun s => ?_
  rw [get_merge, firsts_append_of_subset (h s), firsts_of_nodup (hm s)]

structure Unites (m a b : List String) : Prop where
  absent : m = [] ↔ a = [] ∧ b = []
  nodup : m.Nodup
  mem : ∀ l, l ∈ m ↔ l ∈ a ∨ l ∈ b
  order : FirstsOf m (a ++ b)

theorem unites_merge (a b : Record) (s : Section) :
    Unites ((a.merge b).get s) (a.get s) (b.get s) := by
  have hmem : ∀ l, l ∈ (a.merge b).get s ↔ l ∈ a.get s ∨ l ∈ b.get s := by
    intro l
    rw [get_merge, mem_firsts, List.mem_append]
  refine ⟨?_, ?_, hmem, ?_⟩
  · simp only [List.eq_nil_iff_forall_not_mem, hmem, not_or, forall_and]
  · rw [get_merge]
    exact nodup_firsts _
  · rw [get_merge]
    exact firstsOf_firsts _

inductive Grouping
  | single (o : Option Record)
  | join (g h : Grouping)

namespace Grouping

def merged : Grouping → Option Record
  | single o => o
  | join g h => merge? g.merged h.merged

def parts : Grouping → List (Option Record)
  | single o => [o]
  | join g h => g.parts ++ h.parts

theorem foldl_parts (g : Grouping) (o : Option Record) :
    g.parts.foldl merge? o = merge? o g.merged := by
  induction g generalizing o with
  | single a => rfl
  | join g h ihg ihh => rw [parts, List.foldl_append, ihg, ihh, merged, merge?_assoc]

end Grouping

/-- Merging is a monoid on optional records: grouping and absent records do not matter, and two
records unite section by section into one that absorbs both. -/
theorem merge?_monoid :
    (∀ a b c : Option Record, merge? (merge? a b) c = merge? a (merge? b c)) ∧
    (∀ a : Option Record, merge? a none = a ∧ merge? none a = a) ∧
    (∀ a b : Record, ∃ m, merge? (some a) (some b) = some m ∧
      (∀ s, Unites (m.get s) (a.get s) (b.get s)) ∧
      merge? (some m) (some a) = some m ∧ merge? (some m) (some b) = some m) ∧
    ∀ g : Grouping, g.parts.foldl merge? none = g.merged := by
  refine ⟨merge?_assoc, fun a => ⟨merge?_none_right a, merge?_none_left a⟩, fun a b => ?_, ?_⟩
  · have hunites := unites_merge a b
    have hnodup : ∀ s, ((a.merge b).get s).Nodup := fun s => (hunites s).nodup
    refine ⟨a.merge b, rfl, hunites, congrArg some ?_, congrArg some ?_⟩
    · exact merge_eq_self hnodup fun s l hl => ((hunites s).mem l).mpr (.inl hl)
    · exact merge_eq_self hnodup fun s l hl => ((hunites s).mem l).mpr (.inr hl)
  · intro g
    rw [g.foldl_parts, merge?_none_left]

end Record

end ScriptHelp
