import ScriptHelp.Proofs.TreeEdits

namespace ScriptHelp

namespace FileTree

open Text

/-- The path exists and can be encoded. -/
def Reached (t : FileTree) (p : Path) : Prop := Askable p.text ∧ ∃ place, t.walk p = .ok place

def Plain (s : CodePoints) : Prop := (s.takeWhile (· = Path.slash)).length = 0 ∧
  ∀ n ∈ Path.namesOf s, Askable n ∧ size n ≤ maxNameBytes

instance : DecidablePred Plain := fun s =>
  inferInstanceAs (Decidable ((s.takeWhile (· = Path.slash)).length = 0 ∧
    ∀ n ∈ Path.namesOf s, Askable n ∧ size n ≤ maxNameBytes))

variable {t : FileTree} {p root : Path} {s : CodePoints} {f : FileTree → Bool}

theorem askable_append {a b : CodePoints} : Askable (a ++ b) ↔ Askable a ∧ Askable b :=
  List.forall_mem_append

theorem size_append (a b : CodePoints) : size (a ++ b) = size a + size b := by
  have hstart : ∀ (s : CodePoints) (n : Nat),
      s.foldl (fun n p => n + (bytesOf? p).getD 0) n = n + size s := by
    intro s
    induction s with
    | nil =>
      intro n
      rw [size]
      rfl
    | cons p s ih =>
      intro n
      rw [size, List.foldl_cons, List.foldl_cons, ih, ih, Nat.zero_add, Nat.add_assoc]
  rw [size, List.foldl_append, hstart, hstart, Nat.zero_add]

theorem askable_intercalate {names : List CodePoints} :
    Askable (List.intercalate [Path.slash] names) ↔ ∀ n ∈ names, Askable n := by
  have hslash : Askable [Path.slash] := by decide
  induction names with
  | nil => exact iff_of_true (fun p hp => absurd hp List.not_mem_nil) (by simp)
  | cons n names ih =>
    cases names with
    | nil => simp [List.intercalate]
    | cons m names =>
      rw [List.intercalate_cons_cons, askable_append, askable_append, List.forall_mem_cons]
      exact and_congr (and_iff_left hslash) ih

theorem askable_text (p : Path) : Askable p.text ↔ ∀ n ∈ p.names, Askable n := by
  have hslashes : Askable (codePoints (if p.doubled then "//" else "/")) := by
    cases p.doubled <;> decide
  rw [Path.text, askable_append, askable_intercalate]
  exact and_iff_right hslashes

theorem join_eq (hs : Plain s) (p : Path) :
    p.join s = { p with names := p.names ++ Path.namesOf s } := if_pos hs.1

theorem join_name {n : CodePoints} (hn : Plain n ∧ Path.namesOf n = [n]) (p : Path) :
    p.join n = { p with names := p.names ++ [n] } := by
  rw [join_eq hn.1, hn.2]

theorem plain_manifest : Plain "package.json" ∧
    Path.namesOf "package.json" = [codePoints "package.json"] := by decide +kernel

theorem walk_join (hs : Plain s) (t : FileTree) (p : Path) : t.walk (p.join s) =
    if maxPathBytes < size (p.join s).text then .error .nameTooLong
    else p.names.foldlM Place.step ⟨t, []⟩ >>= fun place =>
      (Path.namesOf s).foldlM Place.step place := by
  rw [walk, join_eq hs, List.foldlM_append]

theorem test_of_askable (hp : Askable p.text) (t : FileTree) (f : FileTree → Bool) :
    t.test p f = match t.walk p with
      | .ok place => .ok (f place.here)
      | .error e => if e = .nameTooLong then .error ⟨e, p⟩ else .ok false := by
  rw [test, if_pos hp, locate]
  cases t.walk p <;> rfl

theorem reached_of_test (h : t.test p f = .ok true) : t.Reached p := by
  have hp : Askable p.text := by
    by_contra hnot
    rw [test, if_neg hnot] at h
    cases h
  rw [test_of_askable hp] at h
  cases hwalk : t.walk p with
  | ok place => exact ⟨hp, place, hwalk⟩
  | error e =>
    rw [hwalk] at h
    simp only at h
    split at h <;> cases h

/-- A step fails for length only at a name that is too long. -/
theorem step_short {place : Place} {n : CodePoints} {e : Fault} (hn : size n ≤ maxNameBytes)
    (h : place.step n = .error e) : e ≠ .nameTooLong := by
  rintro rfl
  unfold Place.step at h
  split at h
  · cases h
  · rw [if_neg (Nat.not_lt.mpr hn)] at h
    split_ifs at h
    split at h <;> cases h

theorem foldlM_short {names : List CodePoints} (hnames : ∀ n ∈ names, size n ≤ maxNameBytes)
    {place : Place} {e : Fault} (h : names.foldlM Place.step place = .error e) :
    e ≠ .nameTooLong := by
  induction names generalizing place with
  | nil => cases h
  | cons n ns ih =>
    rw [List.forall_mem_cons] at hnames
    rw [List.foldlM_cons] at h
    cases hstep : place.step n with
    | error e' =>
      rw [hstep] at h
      obtain rfl := Except.error.inj h
      exact step_short hnames.1 hstep
    | ok place' =>
      rw [hstep] at h
      exact ih hnames.2 h

theorem Reached.askable_join (h : t.Reached root) (hs : Plain s) : Askable (root.join s).text := by
  rw [askable_text, join_eq hs, List.forall_mem_append]
  exact ⟨(askable_text root).mp h.1, fun n hn => (hs.2 n hn).1⟩

/-- The test of short names below an existing path fails only if the whole path is too long. -/
theorem Reached.test_join (h : t.Reached root) (hs : Plain s) (f : FileTree → Bool) :
    t.test (root.join s) f =
      if maxPathBytes < size (root.join s).text then .error ⟨.nameTooLong, root.join s⟩
      else match t.walk (root.join s) with
        | .ok place => .ok (f place.here)
        | .error _ => .ok false := by
  obtain ⟨place, hplace⟩ := h.2
  rw [test_of_askable (h.askable_join hs), walk_join hs]
  split_ifs with hlong
  · rfl
  · rw [walk_eq_foldlM hplace] at hplace
    rw [hplace]
    cases hfold : (Path.namesOf s).foldlM Place.step place with
    | ok below => simp only [bind, Except.bind, hfold]
    | error e =>
      have hshort := foldlM_short (fun n hn => (hs.2 n hn).2) hfold
      simp only [bind, Except.bind, hfold, if_neg hshort]

theorem Reached.isFile_join (h : t.Reached root) (hs : Plain s)
    (hshort : size (root.join s).text ≤ maxPathBytes) : ∃ b, t.isFile (root.join s) = .ok b := by
  rw [isFile, h.test_join hs, if_neg (Nat.not_lt.mpr hshort)]
  cases t.walk (root.join s) <;> exact ⟨_, rfl⟩

/-- If the test of one entry succeeds, so does that of an entry with a shorter name. -/
theorem Reached.isFile_join_of_le (h : t.Reached root) {m : CodePoints} (hs : Plain s)
    (hm : Plain m) (hsize : size (root.join m).text ≤ size (root.join s).text) {b : Bool}
    (hb : t.isFile (root.join s) = .ok b) : ∃ b, t.isFile (root.join m) = .ok b := by
  refine h.isFile_join hm (Nat.le_trans hsize (Nat.not_lt.mp fun hlong => ?_))
  rw [isFile, h.test_join hs, if_pos hlong] at hb
  cases hb

theorem isFile_of_isDir (h : t.isDir p = .ok true) : t.isFile p = .ok false := by
  obtain ⟨hp, place, hplace⟩ := reached_of_test h
  rw [isDir, test_of_askable hp, hplace] at h
  rw [isFile, test_of_askable hp, hplace]
  rcases place with ⟨_ | _, _⟩
  · cases h
  · rfl

theorem list_of_isDir (h : t.isDir p = .ok true) : ∃ ns, t.list p = .ok ns := by
  obtain ⟨hp, place, hplace⟩ := reached_of_test h
  rw [isDir, test_of_askable hp, hplace] at h
  rw [list, locate, hplace]
  rcases place with ⟨_ | _, _⟩
  · cases h
  · exact ⟨_, rfl⟩

/-- Only directories can be listed. -/
theorem Reached.list_join (h : t.Reached root) (hs : Plain s)
    (hdir : t.isDir (root.join s) = .ok false) : ∃ e, t.list (root.join s) = .error e := by
  rw [isDir, h.test_join hs] at hdir
  rw [list, locate]
  split_ifs at hdir
  rcases hwalk : t.walk (root.join s) with e | ⟨_ | _, _⟩
  · exact ⟨_, rfl⟩
  · exact ⟨_, rfl⟩
  · rw [hwalk] at hdir
    cases hdir

theorem intercalate_concat (sep n : CodePoints) (names : List CodePoints) :
    List.intercalate sep (names ++ [n]) = names.flatMap (· ++ sep) ++ n := by
  induction names with
  | nil => simp [List.intercalate]
  | cons m names ih =>
    have hcons : ∀ l : List CodePoints, l ≠ [] →
        List.intercalate sep (m :: l) = m ++ sep ++ List.intercalate sep l := by
      intro l hl
      cases l with
      | nil => exact absurd rfl hl
      | cons k l => exact List.intercalate_cons_cons
    rw [List.cons_append, hcons _ (by simp), ih, List.flatMap_cons, ← List.append_assoc]

/-- Paths that differ in their last name compare in size as these names do. -/
theorem size_join_le {m n : CodePoints} (hm : Plain m ∧ Path.namesOf m = [m])
    (hn : Plain n ∧ Path.namesOf n = [n]) (hsize : size m ≤ size n) (p : Path) :
    size (p.join m).text ≤ size (p.join n).text := by
  rw [join_name hm, join_name hn, Path.text, Path.text, intercalate_concat, intercalate_concat]
  simp only [size_append]
  omega

end FileTree

end ScriptHelp
