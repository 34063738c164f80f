import ScriptHelp.Proofs.LoweredWords
import ScriptHelp.Proofs.TrimmedTexts
import ScriptHelp.Text.Lowercase

namespace ScriptHelp.Text

variable {c : Char} {cs : List Char} {ws : List (List Char)} {s t : String}

/-- All whitespace is single spaces between other characters. -/
def SingleSpaced (cs : List Char) : Prop :=
  ∀ a c b, cs = a ++ c :: b → isWhitespace c = true →
    c = ' ' ∧ (∃ d ∈ a.getLast?, isWhitespace d = false) ∧ ∃ d ∈ b.head?, isWhitespace d = false

def AllSolid (ws : List (List Char)) : Prop := ∀ w ∈ ws, w ≠ [] ∧ ∀ c ∈ w, isWhitespace c = false

theorem allSolid_wordList (cs : List Char) : AllSolid (wordList cs) := by
  intro w hw
  have hword : IsWord w cs := mem_wordList.mp hw
  exact ⟨hword.ne_nil, hword.not_whitespace⟩

abbrev spaced (ws : List (List Char)) : List Char := [' '].intercalate ws

theorem spaced_cons_cons (w v : List Char) (vs : List (List Char)) :
    spaced (w :: v :: vs) = w ++ ' ' :: spaced (v :: vs) := by simp

theorem toList_collapse (s : String) : (collapse s).toList = spaced (wordList s.toList) := by
  have hid : (wordList s.toList).map (String.toList ∘ String.ofList) = wordList s.toList := by
    simp [Function.comp_def]
  rw [collapse, words, String.toList_intercalate, List.map_map, hid]
  rfl

theorem wordList_spaced (h : AllSolid ws) : wordList (spaced ws) = ws := by
  induction ws with
  | nil => rfl
  | cons w ws ih =>
    obtain ⟨hne, hw⟩ := h w List.mem_cons_self
    have hrest : AllSolid ws := fun v hv => h v (List.mem_cons_of_mem w hv)
    cases ws with
    | nil => simpa using wordList_of_not_whitespace hw hne
    | cons v vs =>
      have hspace : isWhitespace ' ' = true := by decide
      rw [spaced_cons_cons, wordList_append_whitespace hspace, ih hrest,
        wordList_of_not_whitespace hw hne]
      rfl

theorem SingleSpaced.after_word {w rest : List Char} (hne : w ≠ [])
    (hw : ∀ c ∈ w, isWhitespace c = false) (hhead : ∃ d ∈ rest.head?, isWhitespace d = false)
    (hrest : SingleSpaced rest) : SingleSpaced (w ++ ' ' :: rest) := by
  have hlast : ∃ d ∈ w.getLast?, isWhitespace d = false :=
    ⟨w.getLast hne, List.getLast_mem_getLast? hne, hw _ (List.getLast_mem hne)⟩
  intro a c b hsplit hc
  -- the whitespace is the space itself or comes after it, since the word has none
  rcases List.append_eq_append_iff.mp hsplit with ⟨as, rfl, hright⟩ | ⟨bs, rfl, hright⟩
  · cases as with
    | nil =>
      obtain ⟨rfl, rfl⟩ := List.cons.inj hright
      rw [List.append_nil]
      exact ⟨rfl, hlast, hhead⟩
    | cons d as =>
      obtain ⟨rfl, hafter⟩ := List.cons.inj hright
      obtain ⟨hspace, ⟨d, hd, hsolid⟩, hnext⟩ := hrest as c b hafter hc
      have hlast' : d ∈ (w ++ ' ' :: as).getLast? := by
        rw [List.getLast?_append, List.getLast?_cons, hd]
        rfl
      exact ⟨hspace, ⟨d, hlast', hsolid⟩, hnext⟩
  · cases bs with
    | nil =>
      obtain ⟨rfl, rfl⟩ := List.cons.inj hright
      rw [List.append_nil] at hlast
      exact ⟨rfl, hlast, hhead⟩
    | cons d bs =>
      obtain ⟨rfl, -⟩ := List.cons.inj hright
      have hsolid : isWhitespace c = false := hw c (by simp)
      rw [hsolid] at hc
      cases hc

/-- Words joined by spaces are single-spaced. -/
theorem singleSpaced_spaced (h : AllSolid ws) : SingleSpaced (spaced ws) := by
  induction ws with
  | nil =>
    intro a c b hsplit
    simp at hsplit
  | cons w ws ih =>
    obtain ⟨hne, hw⟩ := h w List.mem_cons_self
    have hrest : AllSolid ws := fun v hv => h v (List.mem_cons_of_mem w hv)
    cases ws with
    | nil =>
      intro a c b hsplit hc
      have hmem : c ∈ w := by simp_all
      rw [hw c hmem] at hc
      cases hc
    | cons v vs =>
      obtain ⟨hne', hv⟩ := h v (by simp)
      obtain ⟨d, v, rfl⟩ := List.exists_cons_of_ne_nil hne'
      have hhead : d ∈ (spaced ((d :: v) :: vs)).head? := by cases vs <;> simp
      rw [spaced_cons_cons]
      exact (ih hrest).after_word hne hw ⟨d, hhead, hv d List.mem_cons_self⟩

theorem length_spaced_cons_le (w : List Char) (ws : List (List Char)) :
    (spaced (w :: ws)).length ≤ w.length + 1 + (spaced ws).length := by
  cases ws with
  | nil => simp
  | cons v vs =>
    rw [spaced_cons_cons, List.length_append, List.length_cons]
    omega

theorem length_spaced_wordList_le (cs : List Char) : (spaced (wordList cs)).length ≤ cs.length := by
  induction cs using runs_induction with
  | run xs hxs =>
    cases xs with
    | nil => exact Nat.le_refl 0
    | cons x xs => simp [wordList_of_not_whitespace hxs (List.cons_ne_nil x xs)]
  | whitespace xs c cs hxs hc ih =>
    -- the word before the whitespace may be empty, and then no space takes its place
    rw [wordList_append_whitespace hc, List.length_append, List.length_cons]
    cases xs with
    | nil => exact Nat.le_trans ih (by omega)
    | cons x xs =>
      rw [wordList_of_not_whitespace hxs (List.cons_ne_nil x xs), List.singleton_append]
      have hfirst := length_spaced_cons_le (x :: xs) (wordList cs)
      omega

theorem length_collapse_le (s : String) : (collapse s).length ≤ s.length := by
  rw [← String.length_toList, toList_collapse, ← String.length_toList]
  exact length_spaced_wordList_le s.toList

theorem words_collapse (s : String) : words (collapse s) = words s := by
  rw [words, toList_collapse, wordList_spaced (allSolid_wordList _), words]

theorem collapse_eq_of_words_eq (h : words s = words t) : collapse s = collapse t := by
  rw [collapse, collapse, h]

theorem collapse_collapse (s : String) : collapse (collapse s) = collapse s :=
  collapse_eq_of_words_eq (words_collapse s)

theorem collapse_strip (s : String) : collapse (strip s) = collapse s :=
  collapse_eq_of_words_eq (words_strip s)

theorem words_ne_nil_of_strip (h : strip s ≠ "") : words s ≠ [] := by
  rw [← words_strip, words, strip, String.toList_ofList]
  cases hs : trim s.toList with
  | nil =>
    rw [strip, hs] at h
    exact absurd rfl h
  | cons c cs =>
    have hc : c ∈ (trim s.toList).head? := by rw [hs]; rfl
    have hsolid : isWhitespace c = false := (trimmed_trim s.toList).start c hc
    intro hnil
    exact wordList_cons_ne_nil hsolid cs (List.map_eq_nil_iff.mp hnil)

theorem collapse_ne_empty (h : strip s ≠ "") : collapse s ≠ "" := by
  intro hempty
  have hwords := words_collapse s
  rw [hempty] at hwords
  exact words_ne_nil_of_strip h hwords.symm

theorem singleSpaced_collapse (s : String) : SingleSpaced (collapse s).toList := by
  rw [toList_collapse]
  exact singleSpaced_spaced (allSolid_wordList s.toList)

theorem lowerList_spaced (ws : List (List Char)) :
    lowerList (spaced ws) = spaced (ws.map lowerList) := by
  induction ws with
  | nil => rfl
  | cons w ws ih =>
    cases ws with
    | nil => simp
    | cons v vs =>
      have hspace : isWhitespace ' ' = true := by decide
      rw [spaced_cons_cons, lowerList_append_whitespace hspace, ih]
      exact (spaced_cons_cons (lowerList w) (lowerList v) (vs.map lowerList)).symm

/-- Collapsing whitespace and lowercasing commute. -/
theorem lower_collapse (s : String) : lower (collapse s) = collapse (lower s) := by
  have hlist : lowerList (spaced (wordList s.toList)) = spaced (wordList (lowerList s.toList)) := by
    rw [lowerList_spaced, wordList_lowerList]
  apply String.toList_injective
  rw [lower, String.toList_ofList, toList_collapse, hlist, toList_collapse, lower,
    String.toList_ofList]

theorem normalize_false (s : String) : normalize false (some s) = collapse s := rfl

theorem normalize_true (s : String) : normalize true (some s) = lower (collapse s) := rfl

theorem normalize_normalize (lowercase : Bool) (typed : Option String) :
    normalize lowercase (some (normalize lowercase typed)) = normalize lowercase typed := by
  cases typed with
  | none => cases lowercase <;> rfl
  | some s =>
    cases lowercase with
    | false => rw [normalize_false, normalize_false, collapse_collapse]
    | true =>
      rw [normalize_true, normalize_true, ← lower_collapse, lower_lower, collapse_collapse]

example : normalize true (some " ΑΣ\u2003İΣ ") = "ας i\u0307ς" := by decide +kernel

end ScriptHelp.Text
