import Mathlib.Data.List.Basic
import ScriptHelp.Text.Whitespace
import ScriptHelp.Text.Basic

namespace ScriptHelp.Text

variable {c : Char} {w xs ys cs : List Char}

theorem isPart_iff {ds : List Char} : isPart cs ds = true ↔ cs <:+: ds := by
  induction ds with
  | nil => simp [isPart]
  | cons d ds ih =>
    rw [isPart, Bool.or_eq_true, List.isPrefixOf_iff_prefix, ih, List.infix_cons_iff]

theorem OpenWords.close_append (w : List Char) (vs ws : List (List Char)) :
    OpenWords.close (w, vs ++ ws) = OpenWords.close (w, vs) ++ ws := by cases w <;> rfl

theorem foldr_push (xs : List Char) (ws : List (List Char)) :
    xs.foldr OpenWords.push ([], ws) =
      ((xs.foldr OpenWords.push ([], [])).1, (xs.foldr OpenWords.push ([], [])).2 ++ ws) := by
  induction xs with
  | nil => rfl
  | cons x xs ih =>
    rw [List.foldr_cons, ih, List.foldr_cons]
    unfold OpenWords.push
    split
    · rw [OpenWords.close_append]
    · rfl

theorem wordList_append_whitespace (hc : isWhitespace c = true) :
    wordList (xs ++ c :: ys) = wordList xs ++ wordList ys := by
  have hright : (c :: ys).foldr OpenWords.push ([], []) = ([], wordList ys) := by
    rw [List.foldr_cons, OpenWords.push, if_pos hc]
    rfl
  rw [wordList, List.foldr_append, hright, foldr_push, OpenWords.close_append]
  rfl

theorem wordList_of_not_whitespace (hw : ∀ c ∈ w, isWhitespace c = false) (hne : w ≠ []) :
    wordList w = [w] := by
  have hopen : w.foldr OpenWords.push ([], []) = (w, []) := by
    clear hne
    induction w with
    | nil => rfl
    | cons c w ih =>
      have hc : isWhitespace c = false := hw c List.mem_cons_self
      rw [List.foldr_cons, ih fun d hd => hw d (List.mem_cons_of_mem c hd), OpenWords.push, hc]
      rfl
  obtain ⟨c, w, rfl⟩ := List.exists_cons_of_ne_nil hne
  rw [wordList, hopen]
  rfl

/-- Induction on a text as runs without whitespace, separated by whitespace characters. -/
@[elab_as_elim]
theorem runs_induction {P : List Char → Prop}
    (run : ∀ xs, (∀ c ∈ xs, isWhitespace c = false) → P xs)
    (whitespace : ∀ xs c cs, (∀ c ∈ xs, isWhitespace c = false) → isWhitespace c = true → P cs →
      P (xs ++ c :: cs)) (cs : List Char) : P cs := by
  have hopen : ∀ xs, (∀ c ∈ xs, isWhitespace c = false) → P (xs ++ cs) := by
    -- the run that is still open moves from `cs` to `xs`
    induction cs with
    | nil => exact fun xs hxs => (List.append_nil xs).symm ▸ run xs hxs
    | cons c cs ih =>
      intro xs hxs
      by_cases hc : isWhitespace c = true
      · exact whitespace xs c cs hxs hc (ih [] (by simp))
      · rw [List.append_cons]
        refine ih (xs ++ [c]) ?_
        rw [List.forall_mem_append, List.forall_mem_singleton]
        exact ⟨hxs, Bool.eq_false_iff.mpr hc⟩
  exact hopen [] (by simp)

theorem wordList_cons_ne_nil (hc : isWhitespace c = false) (cs : List Char) :
    wordList (c :: cs) ≠ [] := by
  have hopen : (c :: cs).foldr OpenWords.push ([], []) =
      (c :: (cs.foldr OpenWords.push ([], [])).1, (cs.foldr OpenWords.push ([], [])).2) := by
    rw [List.foldr_cons, OpenWords.push, hc]
    rfl
  rw [wordList, hopen]
  exact List.cons_ne_nil _ _

/-- `w` is a word of `cs`. -/
structure IsWord (w cs : List Char) : Prop where
  ne_nil : w ≠ []
  not_whitespace : ∀ c ∈ w, isWhitespace c = false
  /-- On both sides is whitespace or nothing. -/
  bounded : ∃ a b, cs = a ++ w ++ b ∧ (∀ c ∈ a.getLast?, isWhitespace c = true) ∧
    ∀ c ∈ b.head?, isWhitespace c = true

theorem IsWord.mem_wordList (h : IsWord w cs) : w ∈ wordList cs := by
  obtain ⟨hne, hw, a, b, rfl, ha, hb⟩ := h
  have hfirst : w ∈ wordList (w ++ b) := by
    cases b with
    | nil => simp [wordList_of_not_whitespace hw hne]
    | cons c b =>
      rw [wordList_append_whitespace (hb c rfl), wordList_of_not_whitespace hw hne]
      exact List.mem_cons_self
  rw [List.append_assoc]
  -- the text before the word is empty or ends in whitespace
  obtain rfl | ⟨a, c, rfl⟩ := List.eq_nil_or_concat a
  · exact hfirst
  · have hc : isWhitespace c = true := ha c (by simp)
    rw [List.concat_eq_append, List.append_assoc, List.singleton_append,
      wordList_append_whitespace hc]
    exact List.mem_append_right _ hfirst

theorem IsWord.after_whitespace (h : IsWord w ys) (hc : isWhitespace c = true) :
    IsWord w (xs ++ c :: ys) := by
  obtain ⟨hne, hw, a, b, rfl, ha, hb⟩ := h
  refine ⟨hne, hw, xs ++ c :: a, b, by simp, fun d hd => ?_, hb⟩
  rw [List.getLast?_append_of_ne_nil _ (List.cons_ne_nil c a)] at hd
  cases a with
  | nil =>
    obtain rfl : c = d := by simpa using hd
    exact hc
  | cons e a => exact ha d hd

theorem isWord_of_run (hxs : ∀ c ∈ xs, isWhitespace c = false) (h : w ∈ wordList xs)
    (hys : ∀ c ∈ ys.head?, isWhitespace c = true) : IsWord w (xs ++ ys) := by
  by_cases hne : xs = []
  · subst hne
    cases h
  · obtain rfl : w = xs := by simpa [wordList_of_not_whitespace hxs hne] using h
    exact ⟨hne, hxs, [], ys, rfl, by simp, hys⟩

theorem IsWord.of_mem (h : w ∈ wordList cs) : IsWord w cs := by
  induction cs using runs_induction with
  | run xs hxs =>
    have hword : IsWord w (xs ++ []) := isWord_of_run hxs h (by simp)
    rwa [List.append_nil] at hword
  | whitespace xs c cs hxs hc ih =>
    rw [wordList_append_whitespace hc, List.mem_append] at h
    rcases h with hleft | hright
    · exact isWord_of_run hxs hleft (by simpa using hc)
    · exact (ih hright).after_whitespace hc

theorem mem_wordList : w ∈ wordList cs ↔ IsWord w cs := ⟨IsWord.of_mem, IsWord.mem_wordList⟩

theorem mem_words {v s : String} : v ∈ words s ↔ IsWord v.toList s.toList := by
  rw [words, List.mem_map, ← mem_wordList]
  constructor
  · rintro ⟨w, hw, rfl⟩
    rwa [String.toList_ofList]
  · exact fun h => ⟨v.toList, h, String.ofList_toList⟩

end ScriptHelp.Text
