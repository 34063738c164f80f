import Mathlib.Data.List.Nodup
import Mathlib.Data.List.Perm.Basic
import Mathlib.Data.List.TakeWhile

namespace ScriptHelp.Lists

variable {α β : Type}

theorem exists_around {as : List α} {i : Nat} {a : α} (h : as[i]? = some a) :
    ∃ xs ys, as = xs ++ a :: ys ∧ ∀ f : α → α, as.modify i f = xs ++ f a :: ys := by
  obtain ⟨hi, hget⟩ := List.getElem?_eq_some_iff.mp h
  refine ⟨as.take i, as.drop (i + 1), ?_, fun f => ?_⟩
  · rw [← hget, ← List.drop_eq_getElem_cons hi, List.take_append_drop]
  · rw [List.modify_eq_take_cons_drop hi, hget]

theorem modify_length (xs ys : List α) (a : α) (f : α → α) :
    (xs ++ a :: ys).modify xs.length f = xs ++ f a :: ys := by
  induction xs with
  | nil => rfl
  | cons x xs ih => exact congrArg (x :: ·) ih

theorem map_modify_eq {f : α → α} {g : α → β} (h : ∀ a, g (f a) = g a) (i : Nat) (as : List α) :
    (as.modify i f).map g = as.map g := by
  cases ha : as[i]? with
  | none => rw [List.modify_eq_self (List.getElem?_eq_none_iff.mp ha)]
  | some a =>
    obtain ⟨xs, ys, has, hmodify⟩ := exists_around ha
    rw [hmodify, has, List.map_append, List.map_append, List.map_cons, List.map_cons, h]

theorem takeWhile_modify {p : α → Bool} {f : α → α} (h : ∀ a, p (f a) = p a) (i : Nat)
    (as : List α) : (as.modify i f).takeWhile p = (as.takeWhile p).modify i f := by
  induction as generalizing i with
  | nil => rw [List.modify_nil, List.takeWhile_nil, List.modify_nil]
  | cons a as ih =>
    cases i with
    | zero => by_cases ha : p a = true <;> simp [h, ha]
    | succ i => by_cases ha : p a = true <;> simp [ih, ha]

theorem takeWhile_insert {p : α → Bool} {i : Nat} {as new : List α}
    (hi : i ≤ (as.takeWhile p).length) (hnew : ∀ a ∈ new, p a) :
    (as.take i ++ new ++ as.drop i).takeWhile p =
        as.take i ++ new ++ (as.drop i).takeWhile p ∧
      as.takeWhile p = as.take i ++ (as.drop i).takeWhile p := by
  have hstart : as.take i <+: as.takeWhile p :=
    List.prefix_of_prefix_length_le (List.take_prefix i as) (List.takeWhile_prefix p)
      (Nat.le_trans (List.length_take_le i as) hi)
  have htake : ∀ a ∈ as.take i, p a = true := fun a ha => List.mem_takeWhile_imp (hstart.subset ha)
  constructor
  · rw [List.append_assoc, List.takeWhile_append_of_pos htake, List.takeWhile_append_of_pos hnew,
      List.append_assoc]
  · conv_lhs => rw [← List.take_append_drop i as]
    exact List.takeWhile_append_of_pos htake

theorem forall₂_takeWhile {R : α → α → Prop} {p : α → Bool} {as bs : List α}
    (hp : ∀ a b, R a b → p b = p a) (h : List.Forall₂ R as bs) :
    List.Forall₂ R (as.takeWhile p) (bs.takeWhile p) := by
  induction h with
  | nil => exact .nil
  | cons hab _ ih =>
    rw [List.takeWhile_cons, List.takeWhile_cons, hp _ _ hab]
    split
    · exact .cons hab ih
    · exact .nil

/-- A permutation of an image lifts to a permutation of the list. -/
theorem exists_perm_of_map_perm {f : α → β} {as : List α} {bs : List β}
    (h : (as.map f).Perm bs) : ∃ cs : List α, cs.Perm as ∧ cs.map f = bs := by
  have hmap : ∀ (xs : List α) (ys : List β),
      List.Forall₂ (fun a b => f a = b) xs ys ↔ xs.map f = ys := by
    intro xs ys
    rw [← List.forall₂_map_left_iff (R := Eq), List.forall₂_eq_eq_eq]
  have hcomp : Relation.Comp (List.Forall₂ fun a b => f a = b) List.Perm as bs :=
    ⟨as.map f, (hmap as _).mpr rfl, h⟩
  rw [List.forall₂_comp_perm_eq_perm_comp_forall₂] at hcomp
  obtain ⟨cs, hperm, hcs⟩ := hcomp
  exact ⟨cs, hperm.symm, (hmap cs bs).mp hcs⟩

/-- Where images are distinct, removing an image removes one element. -/
theorem exists_filter_ne [DecidableEq β] {f : α → β} {as : List α} {a : α}
    (h : (as.map f).Nodup) (ha : a ∈ as) :
    ∃ xs ys, as = xs ++ a :: ys ∧ as.filter (f · ≠ f a) = xs ++ ys := by
  obtain ⟨xs, ys, rfl⟩ := List.append_of_mem ha
  refine ⟨xs, ys, rfl, ?_⟩
  rw [List.map_append, List.map_cons, List.nodup_middle, List.nodup_cons, List.mem_append,
    not_or] at h
  obtain ⟨⟨hxs, hys⟩, -⟩ := h
  have hkeep : ∀ zs : List α, f a ∉ zs.map f → zs.filter (f · ≠ f a) = zs := by
    intro zs hzs
    rw [List.filter_eq_self]
    intro z hz
    exact decide_eq_true fun he => hzs (he ▸ List.mem_map_of_mem hz)
  rw [List.filter_append, List.filter_cons_of_neg (by simp), hkeep xs hxs, hkeep ys hys]

section FirstAfter

variable {skipped skipped' : α → Prop} {as : List α} {a : α}

/-- The element stands in the list after skipped elements only. -/
inductive FirstAfter (skipped : α → Prop) : List α → α → Prop
  | head (a : α) (as : List α) : FirstAfter skipped (a :: as) a
  | tail {b a : α} {as : List α} (hb : skipped b) (h : FirstAfter skipped as a) :
    FirstAfter skipped (b :: as) a

theorem FirstAfter.mem (h : FirstAfter skipped as a) : a ∈ as := by
  induction h with
  | head a as => exact List.mem_cons_self
  | tail _ _ ih => exact List.mem_cons_of_mem _ ih

theorem FirstAfter.mono (hs : ∀ b, skipped b → skipped' b) (h : FirstAfter skipped as a) :
    FirstAfter skipped' as a := by
  induction h with
  | head a as => exact .head a as
  | tail hb _ ih => exact .tail (hs _ hb) ih

theorem forall_or_firstAfter (skipped : α → Prop) (as : List α) :
    (∀ a ∈ as, skipped a) ∨ ∃ a, FirstAfter skipped as a ∧ ¬ skipped a := by
  induction as with
  | nil => exact .inl fun a ha => absurd ha List.not_mem_nil
  | cons b as ih =>
    by_cases hb : skipped b
    · obtain hall | ⟨a, hfirst, ha⟩ := ih
      · exact .inl (List.forall_mem_cons.mpr ⟨hb, hall⟩)
      · exact .inr ⟨a, .tail hb hfirst, ha⟩
    · exact .inr ⟨b, .head b as, hb⟩

end FirstAfter

section Lookup

variable {k n : String} {a : α} {as : List (String × α)}

theorem lookup_cons (n k : String) (a : α) (as : List (String × α)) :
    ((n, a) :: as).lookup k = if k = n then some a else as.lookup k := by
  rw [List.lookup_cons]
  by_cases h : k = n
  · simp [h]
  · have hb : (k == n) = false := beq_false_of_ne h
    simp [hb, h]

theorem lookup_eq_none_iff : as.lookup k = none ↔ k ∉ as.map (·.1) := by
  induction as with
  | nil => simp
  | cons a as ih =>
    rw [lookup_cons, List.map_cons, List.mem_cons, not_or, ← ih]
    by_cases h : k = a.1 <;> simp [h]

theorem mem_of_lookup (h : as.lookup k = some a) : (k, a) ∈ as := by
  induction as with
  | nil => cases h
  | cons b as ih =>
    rw [lookup_cons] at h
    by_cases hk : k = b.1
    · rw [if_pos hk] at h
      obtain rfl : b.2 = a := Option.some.inj h
      rw [hk]
      exact List.mem_cons_self
    · rw [if_neg hk] at h
      exact List.mem_cons_of_mem b (ih h)

theorem lookup_filter_ne (n k : String) (as : List (String × α)) :
    (as.filter (·.1 ≠ n)).lookup k = if k = n then none else as.lookup k := by
  induction as with
  | nil => simp
  | cons a as ih =>
    by_cases hn : a.1 = n
    · rw [List.filter_cons_of_neg (by simpa using hn), ih, lookup_cons]
      by_cases hk : k = n <;> simp [hk, hn]
    · rw [List.filter_cons_of_pos (by simpa using hn), lookup_cons, ih, lookup_cons]
      by_cases hk : k = a.1 <;> simp [hk, hn]

theorem lookup_map_at (n k : String) (f : α → α) (as : List (String × α)) :
    (as.map fun a => if a.1 = n then (a.1, f a.2) else a).lookup k =
      if k = n then (as.lookup n).map f else as.lookup k := by
  induction as with
  | nil => simp
  | cons a as ih =>
    rw [List.map_cons]
    by_cases hn : a.1 = n
    · rw [if_pos hn, lookup_cons, ih, lookup_cons, lookup_cons]
      by_cases hk : k = n <;> simp [hk, hn]
    · rw [if_neg hn, lookup_cons, ih, lookup_cons, lookup_cons]
      by_cases hk : k = a.1 <;> simp [hk, hn, Ne.symm hn]

end Lookup

end ScriptHelp.Lists
