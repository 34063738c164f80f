import Mathlib.Data.List.Induction
import ScriptHelp.Corpus
import ScriptHelp.Proofs.Lists
import ScriptHelp.Proofs.RecordMerge

namespace ScriptHelp.Corpus

open Record ScriptHelp.Lists

variable {c d : Corpus} {k : String} {r : Record}

theorem lookup_alter (k j : String) (f : Option Record → Record) (es : List (String × Record)) :
    (alter k f es).lookup j = if j = k then some (f (es.lookup k)) else es.lookup j := by
  induction es with
  | nil => simp [alter, lookup_cons]
  | cons e es ih =>
    obtain ⟨n, r⟩ := e
    by_cases hn : n = k
    · subst hn
      by_cases hj : j = n <;> simp [alter, lookup_cons, hj]
    · have hk : k ≠ n := Ne.symm hn
      by_cases hj : j = n
      · simp [alter, hn, hj]
      · simp [alter, hn, lookup_cons, hj, hk, ih]

theorem get?_add (c : Corpus) (k j : String) (r : Record) :
    (c.add k r).get? j = if j = k then merge? (c.get? k) (some r) else c.get? j := by
  rw [get?, add, lookup_alter]
  simp only [get?]
  cases c.entries.lookup k <;> rfl

theorem names_add (c : Corpus) (k : String) (r : Record) :
    (c.add k r).names = if k ∈ c.names then c.names else c.names ++ [k] :=
  map_fst_alter k _ c.entries

def addAll (c : Corpus) (es : List (String × Record)) : Corpus :=
  es.foldl (fun c e => c.add e.1 e.2) c

def under (k : String) (es : List (String × Record)) : List Record :=
  (es.filter (·.1 = k)).map (·.2)

theorem under_cons (k : String) (e : String × Record) (es : List (String × Record)) :
    under k (e :: es) = if e.1 = k then e.2 :: under k es else under k es := by
  unfold under
  by_cases h : e.1 = k <;> simp [h]

theorem get?_addAll (c : Corpus) (es : List (String × Record)) (k : String) :
    (c.addAll es).get? k = merge? (c.get? k) (mergeAll (under k es)) := by
  induction es generalizing c with
  | nil => simp [addAll, under, mergeAll]
  | cons e es ih =>
    have hstep : c.addAll (e :: es) = (c.add e.1 e.2).addAll es := rfl
    rw [hstep, ih, get?_add, under_cons]
    by_cases h : e.1 = k
    · have hone : mergeAll (e.2 :: under k es) = merge? (some e.2) (mergeAll (under k es)) :=
        mergeAll_append [e.2] _
      rw [if_pos h.symm, if_pos h, hone, h, merge?_assoc]
    · rw [if_neg (Ne.symm h), if_neg h]

theorem names_addAll (c : Corpus) (es : List (String × Record)) :
    (c.addAll es).names = firsts (c.names ++ es.map (·.1)) := by
  induction es generalizing c with
  | nil =>
    rw [List.map_nil, List.append_nil]
    exact (firsts_of_nodup c.nodup).symm
  | cons e es ih =>
    have hstep : c.addAll (e :: es) = (c.add e.1 e.2).addAll es := rfl
    rw [hstep, ih, names_add, List.map_cons]
    by_cases h : e.1 ∈ c.names
    · rw [if_pos h, ← List.singleton_append, ← List.append_assoc, ← firsts_firsts_append,
        ← firsts_firsts_append (c.names ++ [e.1])]
      congr 2
      rw [firsts_append c.names [e.1]]
      simp [firsts, h]
    · rw [if_neg h, List.append_assoc, List.singleton_append]

theorem eq_of_lookup_eq {xs ys : List (String × Record)} (hx : (xs.map (·.1)).Nodup)
    (hn : xs.map (·.1) = ys.map (·.1)) (h : ∀ k, xs.lookup k = ys.lookup k) : xs = ys := by
  induction xs generalizing ys with
  | nil => simpa using hn.symm
  | cons x xs ih =>
    obtain ⟨n, r⟩ := x
    match ys, hn with
    | (m, t) :: ys, hn =>
      obtain ⟨hm, htl⟩ := List.cons.inj hn
      simp only at hm htl
      subst hm
      obtain ⟨hnot, hx⟩ := List.nodup_cons.mp hx
      have hr := h n
      simp only [lookup_cons, if_true, Option.some.injEq] at hr
      have htail : ∀ k, xs.lookup k = ys.lookup k := by
        intro k
        by_cases hk : k = n
        · subst hk
          rw [lookup_eq_none_iff.mpr hnot, lookup_eq_none_iff.mpr (htl ▸ hnot)]
        · simpa [lookup_cons, hk] using h k
      rw [hr, ih hx htl htail]

/-- Corpora with the same keys in order and the same record under each are equal. -/
theorem ext_get? (hn : c.names = d.names) (h : ∀ k, c.get? k = d.get? k) : c = d := by
  obtain ⟨xs, hx⟩ := c
  obtain ⟨ys, hy⟩ := d
  have he : xs = ys := eq_of_lookup_eq hx hn h
  subst he
  rfl

theorem under_entries (c : Corpus) (k : String) : under k c.entries = (c.get? k).toList := by
  obtain ⟨es, hes⟩ := c
  simp only [get?]
  induction es with
  | nil => rfl
  | cons e es ih =>
    obtain ⟨n, r⟩ := e
    obtain ⟨hnot, hes⟩ := List.nodup_cons.mp hes
    rw [under_cons, lookup_cons, ih hes]
    by_cases h : n = k
    · subst h
      simp [lookup_eq_none_iff.mpr hnot]
    · simp [h, Ne.symm h]

theorem get?_collect (es : List (String × Record)) (k : String) :
    (collect es).get? k = mergeAll (under k es) :=
  get?_addAll empty es k

theorem names_collect (es : List (String × Record)) :
    (collect es).names = firsts (es.map (·.1)) :=
  names_addAll empty es

/-- Adding contributions is adding their collected records. -/
theorem addAll_collect (c : Corpus) (es : List (String × Record)) :
    c.addAll (collect es).entries = c.addAll es := by
  refine ext_get? ?_ fun k => ?_
  · rw [names_addAll, names_addAll, ← names, names_collect, firsts_append_firsts]
  · rw [get?_addAll, get?_addAll, under_entries, get?_collect, mergeAll_toList]

theorem collect_append (xs ys : List (String × Record)) :
    collect (xs ++ ys) = (collect xs).addAll ys :=
  List.foldl_append

/-- Contributions under one key collect to one record. -/
theorem entries_collect (k : String) (rs : List Record) :
    (collect (rs.map (Prod.mk k))).entries = ((mergeAll rs).map (Prod.mk k)).toList := by
  induction rs using List.reverseRecOn with
  | nil => rfl
  | append_singleton rs r ih =>
    have hstep : (collect ((rs ++ [r]).map (Prod.mk k))).entries =
        alter k (fun old => (merge? old (some r)).getD r)
          (collect (rs.map (Prod.mk k))).entries := by
      rw [List.map_append, collect_append]
      rfl
    have hmerged : mergeAll (rs ++ [r]) = merge? (mergeAll rs) (some r) :=
      mergeAll_append rs [r]
    rw [hstep, ih, hmerged]
    cases mergeAll rs with
    | none => rfl
    | some m => simp [alter, merge?]

end ScriptHelp.Corpus
