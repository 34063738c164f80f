import Mathlib.Data.List.DropRight
import Mathlib.Tactic.SplitIfs
import ScriptHelp.Proofs.TextParts

namespace ScriptHelp.Text

variable {c : Char} {xs ys cs : List Char}

theorem trim_eq_rdropWhile (cs : List Char) :
    trim cs = (cs.dropWhile isWhitespace).rdropWhile isWhitespace :=
  rfl

theorem rdropWhile_cons (p : Char → Bool) (c : Char) (cs : List Char) :
    (c :: cs).rdropWhile p = if cs.all p && p c then [] else c :: cs.rdropWhile p := by
  induction cs using List.reverseRecOn with
  | nil => simp [List.rdropWhile_singleton]
  | append_singleton cs d ih =>
    rw [← List.cons_append]
    by_cases hd : p d = true
    · rw [List.rdropWhile_concat_pos _ _ _ hd, List.rdropWhile_concat_pos _ _ _ hd, ih]
      simp [hd]
    · rw [List.rdropWhile_concat_neg _ _ _ hd, List.rdropWhile_concat_neg _ _ _ hd,
        if_neg (by simp [hd])]
      rfl

theorem length_trim_le (cs : List Char) :
    (trim cs).length ≤ (cs.rdropWhile isWhitespace).length := by
  induction cs with
  | nil => exact Nat.le_refl 0
  | cons c cs ih =>
    rw [trim_eq_rdropWhile]
    by_cases hc : isWhitespace c = true
    · rw [List.dropWhile_cons_of_pos hc, ← trim_eq_rdropWhile, rdropWhile_cons]
      split_ifs with hall
      · have hspace : ∀ d ∈ cs, isWhitespace d = true := by simp_all
        have hnil : cs.rdropWhile isWhitespace = [] := List.rdropWhile_eq_nil_iff.mpr hspace
        rwa [hnil] at ih
      · exact Nat.le_succ_of_le ih
    · rw [List.dropWhile_cons_of_neg hc]

/-- A first character is trimmed iff it is whitespace. -/
theorem trim_cons_eq_iff : trim (c :: cs) = trim cs ↔ isWhitespace c = true := by
  constructor
  · intro h
    by_contra hc
    have htrim : trim (c :: cs) = c :: cs.rdropWhile isWhitespace := by
      rw [trim_eq_rdropWhile, List.dropWhile_cons_of_neg hc, rdropWhile_cons,
        if_neg fun h => hc (Bool.and_eq_true_iff.mp h).2]
    have hlength := congrArg List.length (htrim.symm.trans h)
    have hle := length_trim_le cs
    rw [List.length_cons] at hlength
    omega
  · intro hc
    rw [trim_eq_rdropWhile, List.dropWhile_cons_of_pos hc]
    rfl

/-- Whitespace around a text does not change what trimming gives. -/
theorem trim_pad (hxs : ∀ c ∈ xs, isWhitespace c = true) (hys : ∀ c ∈ ys, isWhitespace c = true) :
    trim (xs ++ cs ++ ys) = trim cs := by
  have hleft : (xs ++ cs ++ ys).dropWhile isWhitespace = (cs ++ ys).dropWhile isWhitespace := by
    rw [List.append_assoc, List.dropWhile_append_of_pos hxs]
  have hright : ∀ zs : List Char,
      (zs ++ ys).rdropWhile isWhitespace = zs.rdropWhile isWhitespace := by
    intro zs
    have hrev : ∀ c ∈ ys.reverse, isWhitespace c = true :=
      fun c hc => hys c (List.mem_reverse.mp hc)
    rw [List.rdropWhile, List.reverse_append, List.dropWhile_append_of_pos hrev]
    rfl
  rw [trim_eq_rdropWhile, hleft, List.dropWhile_append, trim_eq_rdropWhile]
  split_ifs with hcs
  · -- the whole text is whitespace
    rw [List.isEmpty_iff.mp hcs, ← List.append_nil (ys.dropWhile isWhitespace),
      List.dropWhile_eq_nil_iff.mpr hys]
    rfl
  · exact hright _

structure Trimmed (cs : List Char) : Prop where
  start : ∀ c ∈ cs.head?, isWhitespace c = false
  stop : ∀ c ∈ cs.getLast?, isWhitespace c = false

theorem trimmed_trim (cs : List Char) : Trimmed (trim cs) where
  start := by
    intro c hc
    obtain ⟨ds, hds⟩ := List.head?_eq_some_iff.mp hc
    obtain ⟨es, hes⟩ : trim cs <+: cs.dropWhile isWhitespace := List.rdropWhile_prefix _ _
    have hfirst := List.head?_dropWhile_not isWhitespace cs
    rwa [← hes, hds] at hfirst
  stop := by
    intro c hc
    obtain ⟨hne, rfl⟩ := List.mem_getLast?_eq_getLast hc
    exact Bool.eq_false_iff.mpr
      (List.rdropWhile_last_not isWhitespace (cs.dropWhile isWhitespace) hne)

theorem Trimmed.trim_eq (h : Trimmed cs) : trim cs = cs := by
  have hstart : cs.dropWhile isWhitespace = cs := by
    cases cs with
    | nil => rfl
    | cons c cs => rw [List.dropWhile_cons_of_neg (by simp [h.start c rfl])]
  rw [trim_eq_rdropWhile, hstart, List.rdropWhile_eq_self_iff]
  intro hne
  simp [h.stop _ (List.getLast_mem_getLast? hne)]

theorem trim_of_not_whitespace (h : ∀ c ∈ cs, isWhitespace c = false) : trim cs = cs := by
  have htrimmed : Trimmed cs :=
    ⟨fun c hc => h c (List.mem_of_head? hc), fun c hc => h c (List.mem_of_getLast? hc)⟩
  exact htrimmed.trim_eq

theorem wordList_dropWhile (cs : List Char) :
    wordList (cs.dropWhile isWhitespace) = wordList cs := by
  induction cs with
  | nil => rfl
  | cons c cs ih =>
    by_cases hc : isWhitespace c = true
    · have hspace : wordList ([] ++ c :: cs) = wordList [] ++ wordList cs :=
        wordList_append_whitespace hc
      rw [List.dropWhile_cons_of_pos hc, ih]
      exact hspace.symm
    · rw [List.dropWhile_cons_of_neg hc]

theorem wordList_rdropWhile (cs : List Char) :
    wordList (cs.rdropWhile isWhitespace) = wordList cs := by
  induction cs using List.reverseRecOn with
  | nil => rfl
  | append_singleton cs c ih =>
    by_cases hc : isWhitespace c = true
    · rw [List.rdropWhile_concat_pos _ _ _ hc, ih, wordList_append_whitespace hc]
      exact (List.append_nil _).symm
    · rw [List.rdropWhile_concat_neg _ _ _ hc]

theorem words_strip (s : String) : words (strip s) = words s := by
  rw [words, strip, String.toList_ofList, trim_eq_rdropWhile, wordList_rdropWhile,
    wordList_dropWhile, words]

theorem strip?_eq_some_iff {s t : String} : strip? s = some t ↔ t = strip s ∧ t ≠ "" := by
  unfold strip?
  by_cases h : strip s = ""
  · simp +contextual [h]
  · simp +contextual [h, eq_comm]

theorem strip?_of_whitespace {s : String} (h : ∀ c ∈ s.toList, isWhitespace c = true) :
    strip? s = none := by
  have hpad : trim (s.toList ++ [] ++ []) = trim [] := trim_pad h (by simp)
  have hstrip : strip s = "" := by
    rw [List.append_nil, List.append_nil] at hpad
    rw [strip, hpad]
    rfl
  unfold strip?
  rw [hstrip]
  rfl

end ScriptHelp.Text
