import ScriptHelp.Proofs.LetterCase
import ScriptHelp.Proofs.TextParts

namespace ScriptHelp.Text

variable {c d : Char} {before before' after after' xs ys cs : List Char}

theorem nextIsCased_append_whitespace (hc : isWhitespace c = true) :
    nextIsCased (xs ++ c :: ys) = nextIsCased xs := by
  have hmisses : ∀ p ∈ whitespaceRanges, caseIgnorable.misses p = true ∧ cased.misses p = true := by
    decide +kernel
  obtain ⟨p, hp, hfirst, hlast⟩ := Ranges.exists_of_has hc
  have hstop : caseIgnorable.has c = false := Ranges.has_eq_false (hmisses p hp).1 hfirst hlast
  have hcased : cased.has c = false := Ranges.has_eq_false (hmisses p hp).2 hfirst hlast
  unfold nextIsCased
  induction xs with
  | nil => simp [hstop, hcased]
  | cons x xs ih =>
    -- what is skipped before the whitespace is skipped without it too
    by_cases hx : caseIgnorable.has x = true
    · rw [List.cons_append, List.dropWhile_cons_of_pos hx, List.dropWhile_cons_of_pos hx, ih]
    · rw [List.cons_append, List.dropWhile_cons_of_neg hx, List.dropWhile_cons_of_neg hx]

theorem lowerForm_congr (hbefore : nextIsCased before = nextIsCased before')
    (hafter : nextIsCased after = nextIsCased after') :
    lowerForm before c after = lowerForm before' c after' := by
  rw [lowerForm, hbefore, hafter, lowerForm]

theorem lowerAfter_past_whitespace (hc : isWhitespace c = true) :
    lowerAfter (xs ++ c :: before) ys = lowerAfter xs ys := by
  induction ys generalizing xs with
  | nil => rfl
  | cons y ys ih =>
    rw [lowerAfter, lowerAfter, ← List.cons_append, ih,
      lowerForm_congr (nextIsCased_append_whitespace hc) rfl]

theorem lowerAfter_append_whitespace (hc : isWhitespace c = true) :
    lowerAfter before (xs ++ c :: ys) = lowerAfter before xs ++ c :: lowerList ys := by
  induction xs generalizing before with
  | nil =>
    have hpast : lowerAfter ([] ++ c :: before) ys = lowerList ys := lowerAfter_past_whitespace hc
    change lowerForm before c ys ++ lowerAfter (c :: before) ys = c :: lowerList ys
    rw [lowerForm_of_isWhitespace hc, ← hpast]
    rfl
  | cons x xs ih =>
    rw [List.cons_append, lowerAfter, ih, lowerAfter, List.append_assoc,
      lowerForm_congr rfl (nextIsCased_append_whitespace hc)]

theorem lowerList_append_whitespace (hc : isWhitespace c = true) :
    lowerList (xs ++ c :: ys) = lowerList xs ++ c :: lowerList ys := lowerAfter_append_whitespace hc

theorem isWhitespace_of_mem_lowerForm (hc : isWhitespace c = false)
    (hd : d ∈ lowerForm before c after) :
    isWhitespace d = false := by
  have hlower : isWhitespace (lowerChar c) = false := by
    obtain hself | ⟨r, hr, hn, hcode⟩ := lowerCode_cases c.toNat
    · rwa [lowerChar, hself, Char.ofNat_toNat]
    · have hbounds := CaseRun.bounds hn
      have hcode' : (lowerChar c).toNat = r.lower + (c.toNat - r.first) :=
        (toNat_lowerChar c).trans hcode
      refine Ranges.has_eq_false (sound_of_mem hr).lowerNotWhitespace ?_ ?_
      · omega
      · omega
  have hfixed : ∀ e ∈ ['ς', 'σ', 'i', '\u0307'], isWhitespace e = false :=
    List.all_iff_forall_prop.mp (by decide)
  unfold lowerForm at hd
  split_ifs at hd
  · exact hfixed d (by simp_all)
  · exact hfixed d (by simp_all)
  · exact hfixed d (by simp_all)
  · rwa [List.mem_singleton.mp hd]

theorem lowerForm_ne_nil : lowerForm before c after ≠ [] := by
  unfold lowerForm
  split_ifs <;> exact List.cons_ne_nil _ _

theorem isWhitespace_of_mem_lowerAfter (h : ∀ c ∈ cs, isWhitespace c = false)
    (hd : d ∈ lowerAfter before cs) : isWhitespace d = false := by
  induction cs generalizing before with
  | nil => cases hd
  | cons c cs ih =>
    rw [List.forall_mem_cons] at h
    rcases List.mem_append.mp hd with hd | hd
    · exact isWhitespace_of_mem_lowerForm h.1 hd
    · exact ih h.2 hd

theorem wordList_lowerList_of_not_whitespace (hxs : ∀ c ∈ xs, isWhitespace c = false) :
    wordList (lowerList xs) = (wordList xs).map lowerList := by
  cases xs with
  | nil => rfl
  | cons x xs =>
    have hne : lowerList (x :: xs) ≠ [] := List.append_ne_nil_of_left_ne_nil lowerForm_ne_nil _
    have hlower : ∀ c ∈ lowerList (x :: xs), isWhitespace c = false := fun c =>
      isWhitespace_of_mem_lowerAfter hxs
    rw [wordList_of_not_whitespace hlower hne,
      wordList_of_not_whitespace hxs (List.cons_ne_nil x xs)]
    rfl

theorem wordList_lowerList (cs : List Char) :
    wordList (lowerList cs) = (wordList cs).map lowerList := by
  induction cs using runs_induction with
  | run xs hxs => exact wordList_lowerList_of_not_whitespace hxs
  | whitespace xs c cs hxs hc ih =>
    rw [lowerList_append_whitespace hc, wordList_append_whitespace hc,
      wordList_append_whitespace hc, List.map_append, wordList_lowerList_of_not_whitespace hxs, ih]

/-- Lowercasing commutes with splitting into words. -/
theorem words_lower (s : String) : words (lower s) = (words s).map lower := by
  rw [words, lower, String.toList_ofList, wordList_lowerList, words, List.map_map, List.map_map]
  refine List.map_congr_left fun w _ => ?_
  rw [Function.comp_apply, Function.comp_apply, lower, String.toList_ofList]

end ScriptHelp.Text
