import Mathlib.Data.Bool.AllAny
import Mathlib.Tactic.SplitIfs
import ScriptHelp.Text.Whitespace
import ScriptHelp.Text.Lowercase

namespace ScriptHelp.Text

variable {n : Nat} {c d : Char} {before cs xs ys : List Char}

/-- No range meets `p`. The first range that does not end before it decides. -/
def Ranges.misses (rs : Ranges) (p : Nat × Nat) : Bool :=
  match rs.find? fun r => p.1 ≤ r.2 with
  | some r => decide (p.2 < r.1) && decide (r.1 ≤ r.2)
  | none => true

theorem Ranges.has_eq_false {rs : Ranges} {p : Nat × Nat} (h : rs.misses p = true)
    (hfirst : p.1 ≤ c.toNat) (hlast : c.toNat ≤ p.2) : rs.has c = false := by
  induction rs with
  | nil => rfl
  | cons r rs ih =>
    by_cases hr : p.1 ≤ r.2
    · -- `r` ends where `p` has begun, and so begins beyond it
      rw [misses, List.find?_cons_of_pos (by simpa using hr)] at h
      simp only [Bool.and_eq_true, decide_eq_true_eq] at h
      have hc : c.toNat ≤ r.2 := by omega
      rw [has, List.find?_cons_of_pos (by simpa using hc)]
      exact decide_eq_false (by omega)
    · have hc : ¬ c.toNat ≤ r.2 := by omega
      rw [misses, List.find?_cons_of_neg (by simpa using hr)] at h
      rw [has, List.find?_cons_of_neg (by simpa using hc)]
      exact ih h

theorem CaseRun.bounds {r : CaseRun} (h : r.has n = true) : r.first ≤ n ∧ n ≤ r.last := by
  simp only [has, Bool.and_eq_true, decide_eq_true_eq] at h
  exact h.1

theorem lowerCode_cases (n : Nat) :
    lowerCode n = n ∨ ∃ r ∈ caseRuns, r.has n = true ∧ lowerCode n = r.lower + (n - r.first) := by
  unfold lowerCode
  cases hr : caseRuns.find? fun r => n ≤ r.last with
  | none => exact .inl rfl
  | some r =>
    by_cases hn : r.has n = true
    · exact .inr ⟨r, List.mem_of_find?_eq_some hr, hn, if_pos hn⟩
    · exact .inl (if_neg hn)

def CaseRun.letters (r : CaseRun) (first : Nat) : List Nat :=
  List.range' first ((r.last - r.first) / r.step + 1) r.step

theorem CaseRun.mem_letters {r : CaseRun} (h : r.has n = true) (first : Nat) :
    first + (n - r.first) ∈ r.letters first := by
  have hstep : (n - r.first) % r.step = 0 := by
    simp only [has, Bool.and_eq_true, beq_iff_eq] at h
    exact h.2
  have hplace : n - r.first = r.step * ((n - r.first) / r.step) :=
    (Nat.mul_div_cancel' (Nat.dvd_of_mod_eq_zero hstep)).symm
  have hle : (n - r.first) / r.step ≤ (r.last - r.first) / r.step :=
    Nat.div_le_div_right (Nat.sub_le_sub_right (bounds h).2 r.first)
  exact List.mem_range'.mpr ⟨_, Nat.lt_succ_of_le hle, congrArg (first + ·) hplace⟩

def uppercaseLetters : List Nat := caseRuns.flatMap fun r => r.letters r.first

def lowercaseLetters : List Nat := caseRuns.flatMap fun r => r.letters r.lower

/-- Code points as the bits of a number, so that two lists are compared at once. -/
def mask (ns : List Nat) : Nat := ns.foldr (fun n m => Nat.pow 2 n ||| m) 0

theorem testBit_mask {ns : List Nat} : (mask ns).testBit n = true ↔ n ∈ ns := by
  induction ns with
  | nil => simp [mask]
  | cons m ns ih =>
    have hcons : mask (m :: ns) = 2 ^ m ||| mask ns := rfl
    rw [hcons, Nat.testBit_or, Nat.testBit_two_pow, Bool.or_eq_true, decide_eq_true_iff, ih,
      List.mem_cons, eq_comm]

theorem not_mem_lowercaseLetters (h : n ∈ uppercaseLetters) : n ∉ lowercaseLetters := by
  -- two numbers are compared and not every run with every other
  have hapart : mask uppercaseLetters &&& mask lowercaseLetters = 0 := by decide +kernel
  intro h'
  have hbit : (mask uppercaseLetters &&& mask lowercaseLetters).testBit n = true := by
    rw [Nat.testBit_and, testBit_mask.mpr h, testBit_mask.mpr h']
    rfl
  rw [hapart, Nat.zero_testBit] at hbit
  cases hbit

/-- Lowercasing a code point is idempotent. -/
theorem lowerCode_lowerCode (n : Nat) : lowerCode (lowerCode n) = lowerCode n := by
  obtain hself | ⟨r, hr, hn, hlower⟩ := lowerCode_cases n
  · rw [hself, hself]
  · obtain hself | ⟨u, hu, hu', -⟩ := lowerCode_cases (lowerCode n)
    · exact hself
    · have hlowerLetter : lowerCode n ∈ lowercaseLetters :=
        List.mem_flatMap.mpr ⟨r, hr, hlower ▸ CaseRun.mem_letters hn r.lower⟩
      have hupper : lowerCode n ∈ uppercaseLetters := by
        have hmem := CaseRun.mem_letters hu' u.first
        rw [Nat.add_sub_cancel' (CaseRun.bounds hu').1] at hmem
        exact List.mem_flatMap.mpr ⟨u, hu, hmem⟩
      exact absurd hlowerLetter (not_mem_lowercaseLetters hupper)

/-- Lowercase letters that share an uppercase letter are all below U+10000. -/
theorem sharing_eq_nil (h : 0x10000 ≤ n) : sharing n = [] := by
  have hplane : ∀ p ∈ sharedUppercase, p.1 < 0x10000 := by decide
  have hnone : sharedUppercase.find? (fun p => p.1 == n) = none := by
    rw [List.find?_eq_none]
    intro p hp
    have := hplane p hp
    rw [beq_iff_eq]
    omega
  rw [sharing, hnone]

/-- The lowercase letters of a run are characters, in ASCII only `a` to `z`, and neither they nor
the uppercase ones are whitespace. -/
structure CaseRun.Sound (r : CaseRun) : Prop where
  ascii : 0x61 ≤ r.lower ∧ (r.lower + (r.last - r.first) < 0x7b ∨ 0x80 ≤ r.lower)
  valid : r.lower + (r.last - r.first) < 0xd800 ∨
    0xdfff < r.lower ∧ r.lower + (r.last - r.first) < 0x110000
  upperNotWhitespace : whitespaceRanges.misses (r.first, r.last) = true
  lowerNotWhitespace : whitespaceRanges.misses (r.lower, r.lower + (r.last - r.first)) = true

theorem sound_of_mem {r : CaseRun} (h : r ∈ caseRuns) : r.Sound := by
  have hruns : ∀ r ∈ caseRuns,
      (0x61 ≤ r.lower ∧ (r.lower + (r.last - r.first) < 0x7b ∨ 0x80 ≤ r.lower)) ∧
      (r.lower + (r.last - r.first) < 0xd800 ∨
        0xdfff < r.lower ∧ r.lower + (r.last - r.first) < 0x110000) ∧
      whitespaceRanges.misses (r.first, r.last) = true ∧
      whitespaceRanges.misses (r.lower, r.lower + (r.last - r.first)) = true := by decide +kernel
  obtain ⟨hascii, hvalid, hupper, hlower⟩ := hruns r h
  exact ⟨hascii, hvalid, hupper, hlower⟩

/-- Among ASCII characters only `a` to `z` are lowercase letters of others. -/
theorem lowerCode_eq_self (h : lowerCode n < 0x61 ∨ 0x7b ≤ lowerCode n ∧ lowerCode n < 0x80) :
    lowerCode n = n := by
  obtain hself | ⟨r, hr, hn, hlower⟩ := lowerCode_cases n
  · exact hself
  · have hbounds := CaseRun.bounds hn
    have hascii := (sound_of_mem hr).ascii
    omega

theorem toNat_lowerChar (c : Char) : (lowerChar c).toNat = lowerCode c.toNat := by
  have hvalid : (lowerCode c.toNat).isValidChar := by
    obtain hself | ⟨r, hr, hn, hlower⟩ := lowerCode_cases c.toNat
    · rw [hself]
      exact c.valid
    · have hbounds := CaseRun.bounds hn
      have hvalid := (sound_of_mem hr).valid
      rw [Nat.isValidChar]
      omega
  rw [lowerChar, Char.ofNat, dif_pos hvalid]
  rfl

/-- Among ASCII characters only `A` to `Z` have another lowercase letter, which is ASCII; those that
share an uppercase letter share it with non-ASCII ones, and those below `A` share none. -/
theorem lowerCode_of_ascii (hn : n < 0x80) : (n < 0x41 ∨ 0x5b ≤ n → lowerCode n = n) ∧
    lowerCode n < 0x80 ∧ (n < 0x41 → sharing n = []) ∧ ∀ m ∈ sharing n, 0x80 ≤ m := by
  have hall : ∀ n < 0x80, (n < 0x41 ∨ 0x5b ≤ n → lowerCode n = n) ∧
      lowerCode n < 0x80 ∧ (n < 0x41 → sharing n = []) ∧ ∀ m ∈ sharing n, 0x80 ≤ m := by
    decide +kernel
  exact hall n hn

theorem sameLetter_iff_eq (hc : c.toNat < 0x41) : sameLetter c d = true ↔ d = c := by
  obtain ⟨hself, -, hsharing, -⟩ := lowerCode_of_ascii (n := c.toNat) (by omega)
  have hlower : lowerCode c.toNat = c.toNat := hself (.inl hc)
  simp only [sameLetter, hlower, hsharing hc, List.contains_nil, Bool.or_false, beq_iff_eq]
  constructor
  · intro h
    rw [lowerCode_eq_self (by omega)] at h
    exact Char.toNat_inj.mp h
  · rintro rfl
    exact hlower

theorem sameLetter_iff_of_ascii (hc : lowerCode c.toNat < 0x80) (hd : d.toNat < 0x80) :
    sameLetter c d = true ↔ lowerChar c = lowerChar d := by
  obtain ⟨-, hlower, -⟩ := lowerCode_of_ascii hd
  obtain ⟨-, -, -, hsharing⟩ := lowerCode_of_ascii hc
  have hnot : lowerCode d.toNat ∉ sharing (lowerCode c.toNat) := fun h =>
    absurd (hsharing _ h) (Nat.not_le_of_lt hlower)
  simp only [sameLetter, List.contains_eq_mem, hnot, decide_false, Bool.or_false, beq_iff_eq]
  rw [← toNat_lowerChar, ← toNat_lowerChar, Char.toNat_inj, eq_comm]

theorem lowerAfter_eq_map (h : ∀ c ∈ cs, c ≠ 'Σ' ∧ c ≠ 'İ') :
    lowerAfter before cs = cs.map lowerChar := by
  induction cs generalizing before with
  | nil => rfl
  | cons c cs ih =>
    obtain ⟨hsigma, hdotted⟩ := h c List.mem_cons_self
    rw [lowerAfter, lowerForm, if_neg hsigma, if_neg hdotted, ih fun d hd =>
      h d (List.mem_cons_of_mem c hd)]
    rfl

/-- ASCII text is lowercased character by character. -/
theorem lowerList_of_ascii (h : ∀ c ∈ cs, c.toNat < 0x80) : lowerList cs = cs.map lowerChar := by
  refine lowerAfter_eq_map fun c hc => ⟨?_, ?_⟩
  all_goals
    rintro rfl
    exact absurd (h _ hc) (by decide)

theorem lowerForm_subset (before : List Char) (hc : c ∈ cs) :
    ∃ before' after, lowerForm before' c after ⊆ lowerAfter before cs := by
  induction cs generalizing before with
  | nil => cases hc
  | cons d ds ih =>
    cases hc with
    | head => exact ⟨before, ds, List.subset_append_left _ _⟩
    | tail _ hc =>
      obtain ⟨before', after, hsub⟩ := ih (d :: before) hc
      exact ⟨before', after, fun x hx => List.mem_append_right _ (hsub hx)⟩

/-- Text with an ASCII lowercase form is lowercased character by character. -/
theorem lowerList_eq_map (h : ∀ c ∈ lowerList cs, c.toNat < 0x80) :
    lowerList cs = cs.map lowerChar := by
  refine lowerAfter_eq_map fun c hc => ⟨?_, ?_⟩
  · rintro rfl
    obtain ⟨before, after, hsub⟩ := lowerForm_subset [] hc
    rw [lowerForm, if_pos rfl] at hsub
    split at hsub
    · exact absurd (h _ (hsub List.mem_cons_self)) (by decide)
    · exact absurd (h _ (hsub List.mem_cons_self)) (by decide)
  · rintro rfl
    obtain ⟨before, after, hsub⟩ := lowerForm_subset [] hc
    exact absurd (h '\u0307' (hsub (by simp [lowerForm]))) (by decide)

theorem lowerForm_of_lowercase (h : lowerChar c = c) (before after : List Char) :
    lowerForm before c after = [c] := by
  have hsigma : c ≠ 'Σ' := by
    rintro rfl
    exact absurd h (by decide)
  have hdotted : c ≠ 'İ' := by
    rintro rfl
    exact absurd h (by decide)
  rw [lowerForm, if_neg hsigma, if_neg hdotted, h]

theorem lowerForm_of_isWhitespace (h : isWhitespace c = true) (before after : List Char) :
    lowerForm before c after = [c] := by
  have hself : lowerCode c.toNat = c.toNat := by
    obtain hself | ⟨r, hr, hn, -⟩ := lowerCode_cases c.toNat
    · exact hself
    · obtain ⟨hfirst, hlast⟩ := CaseRun.bounds hn
      have hnot : isWhitespace c = false :=
        Ranges.has_eq_false (sound_of_mem hr).upperNotWhitespace hfirst hlast
      rw [h] at hnot
      cases hnot
  refine lowerForm_of_lowercase ?_ before after
  rw [lowerChar, hself, Char.ofNat_toNat]

theorem lowerChar_of_mem_lowerForm {after : List Char} (h : d ∈ lowerForm before c after) :
    lowerChar d = d := by
  have hfixed : ∀ e ∈ ['ς', 'σ', 'i', '\u0307'], lowerChar e = e :=
    List.all_iff_forall_prop.mp (by decide)
  unfold lowerForm at h
  split_ifs at h
  · exact hfixed d (by simp_all)
  · exact hfixed d (by simp_all)
  · exact hfixed d (by simp_all)
  · rw [List.mem_singleton.mp h, ← Char.toNat_inj, toNat_lowerChar, toNat_lowerChar,
      lowerCode_lowerCode]

theorem lowerChar_of_mem_lowerAfter (h : d ∈ lowerAfter before cs) : lowerChar d = d := by
  induction cs generalizing before with
  | nil => cases h
  | cons c cs ih =>
    rcases List.mem_append.mp h with h | h
    · exact lowerChar_of_mem_lowerForm h
    · exact ih h

theorem lowerAfter_of_lowercase (h : ∀ c ∈ cs, lowerChar c = c) : lowerAfter before cs = cs := by
  induction cs generalizing before with
  | nil => rfl
  | cons c cs ih =>
    rw [List.forall_mem_cons] at h
    rw [lowerAfter, lowerForm_of_lowercase h.1, ih h.2]
    rfl

theorem lower_of_lowercase {s : String} (h : ∀ c ∈ s.toList, lowerChar c = c) : lower s = s := by
  rw [lower, lowerList, lowerAfter_of_lowercase h, String.ofList_toList]

theorem lower_lower (s : String) : lower (lower s) = lower s := by
  refine lower_of_lowercase fun c hc => ?_
  rw [lower, String.toList_ofList] at hc
  exact lowerChar_of_mem_lowerAfter hc

def plain (c : Char) : Bool := Nat.blt c.toNat 0x41 || Nat.blt 0x5a c.toNat && Nat.blt c.toNat 0x80

theorem lowerChar_of_plain (h : plain c = true) : lowerChar c = c := by
  simp only [plain, Bool.or_eq_true, Bool.and_eq_true, Nat.blt_eq] at h
  have hself : lowerCode c.toNat = c.toNat := (lowerCode_of_ascii (by omega)).1 (by omega)
  rw [lowerChar, hself, Char.ofNat_toNat]

/-- Only the lowercase form of a sigma depends on its context. -/
theorem lowerForm_of_ne (hc : c ≠ 'Σ') (before after : List Char) :
    lowerForm before c after = lowerForm [] c [] := by
  rw [lowerForm, if_neg hc, lowerForm, if_neg hc]

theorem lowerAfter_append (hxs : 'Σ' ∉ xs) : lowerAfter before (xs ++ ys) =
    (xs.flatMap fun c => lowerForm [] c []) ++ lowerAfter (xs.reverse ++ before) ys := by
  induction xs generalizing before with
  | nil => rfl
  | cons c xs ih =>
    rw [List.mem_cons, not_or] at hxs
    rw [List.cons_append, lowerAfter, lowerForm_of_ne (Ne.symm hxs.1), ih hxs.2, List.flatMap_cons,
      List.reverse_cons, List.append_assoc, List.append_assoc, List.singleton_append]

theorem lowerList_eq_flatMap (hxs : 'Σ' ∉ xs) :
    lowerList xs = xs.flatMap fun c => lowerForm [] c [] := by
  have h : lowerAfter [] (xs ++ []) = _ := lowerAfter_append hxs
  rwa [List.append_nil, lowerAfter, List.append_nil] at h

/-- The lowercase form of a slice without a sigma is a slice of the lowercase text. -/
theorem lowerList_infix_lowerAfter (hxs : 'Σ' ∉ xs) (h : xs <:+: cs) (before : List Char) :
    lowerList xs <:+: lowerAfter before cs := by
  induction cs generalizing before with
  | nil =>
    rw [List.infix_nil.mp h]
    exact List.nil_infix
  | cons c cs ih =>
    rcases List.infix_cons_iff.mp h with hstart | hlater
    · obtain ⟨ys, hys⟩ := hstart
      rw [← hys, lowerAfter_append hxs, ← lowerList_eq_flatMap hxs]
      exact (List.prefix_append _ _).isInfix
    · rw [lowerAfter]
      exact (ih hlater _).trans (List.suffix_append _ _).isInfix

end ScriptHelp.Text
