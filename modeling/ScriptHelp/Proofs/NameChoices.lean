import ScriptHelp.Proofs.PatternMatching

namespace ScriptHelp

namespace Address

/-- An uppercase letter that matches nothing in a set. -/
def isFarUppercase (c : Char) : Bool :=
  decide (Pattern.firstPlaneEnd ≤ c.toNat) && Text.lowerCode c.toNat != c.toNat

/-- The names differ in their last characters only, where `name` has an uppercase letter that
matches nothing in a set. -/
def Hides (other name : List Char) : Prop :=
  other.length = name.length ∧ other ≠ name ∧ other.dropLast = name.dropLast ∧
    name.getLast?.any isFarUppercase = true

instance (other name : List Char) : Decidable (Hides other name) :=
  inferInstanceAs (Decidable (_ ∧ _ ∧ _ ∧ _))

def heard (names : List String) : List String :=
  names.filter fun n => ∀ m ∈ names, ¬ Hides m.toList n.toList

theorem not_hides_self (name : List Char) : ¬ Hides name name := fun h => h.2.1 rfl

/-- Names that do not end in such a letter are all heard. -/
theorem heard_eq_self {names : List String}
    (h : ∀ n ∈ names, n.toList.getLast?.any isFarUppercase = false) : heard names = names := by
  refine List.filter_eq_self.mpr fun n hn => decide_eq_true fun m _ hhides => ?_
  exact absurd (h n hn) (by rw [hhides.2.2.2]; decide)

theorem hides_cons_self (c : Char) (ds cs : List Char) :
    Hides (c :: ds) (c :: cs) ↔ Hides ds cs := by
  match ds, cs with
  | [], [] => simp [Hides]
  | [], _ :: _ => simp [Hides]
  | _ :: _, [] => simp [Hides]
  | _ :: _, _ :: _ => simp [Hides]

theorem hides_singleton {c d : Char} : Hides [d] [c] ↔ d ≠ c ∧ isFarUppercase c = true := by
  simp [Hides]

def Apart (as bs : List Char) : Prop := ∀ c ∈ as.head?, c ∉ bs.head?

theorem Apart.symm {as bs : List Char} (h : Apart as bs) : Apart bs as :=
  fun c hb ha => h c ha hb

theorem not_hides_of_apart {as bs : List Char} (h : Apart as bs)
    (hlong : as.length ≠ 1 ∨ bs.length ≠ 1) : ¬ Hides as bs := by
  rintro ⟨hlength, hne, hinit, -⟩
  match as, bs with
  | [], [] => exact hne rfl
  | [a], [b] => simp at hlong
  | a :: _ :: _, b :: _ :: _ =>
    rw [List.dropLast_cons_cons, List.dropLast_cons_cons, List.cons.injEq] at hinit
    exact h a rfl (congrArg some hinit.1.symm)

end Address

namespace Pattern

open Address

variable {text as bs : List Char} {widths : List (Option Width)} {a b : Char}

theorem member_has (n c : Char) : (Member.code n.toNat).has .full false c =
    (!isFarUppercase n && Text.sameLetter n c) := by
  rw [Member.has, isFarUppercase]
  by_cases hn : firstPlaneEnd ≤ n.toNat
  · rw [if_pos (.inr hn)]
    by_cases hself : Text.lowerCode n.toNat = n.toNat
    · have hsharing : Text.sharing n.toNat = [] := Text.sharing_eq_nil hn
      simp only [CaseRule.lowerCode, Text.sameLetter, hself, hsharing, List.contains_nil,
        Bool.or_false, bne_self_eq_false, Bool.and_false, Bool.not_false, Bool.true_and]
    · -- no character has this uppercase letter as its lowercase one
      have hne : Text.lowerCode c.toNat ≠ n.toNat := by
        intro h
        have hidem := Text.lowerCode_lowerCode c.toNat
        rw [h] at hidem
        exact hself hidem
      simp only [CaseRule.lowerCode, hn, beq_eq_false_iff_ne.mpr hne, bne_iff_ne.mpr hself,
        decide_true, Bool.and_true, Bool.not_true, Bool.false_and]
  · rw [if_neg (by simpa using hn), CaseRule.alike, if_pos rfl, List.contains_cons]
    simp only [CaseRule.lowerCode, Text.sameLetter, hn, decide_false, Bool.false_and,
      Bool.not_false, Bool.true_and]

def branchOf (name : List Char) : List Node := name.map (literal .initial)

section Shape

theorem startsWith_literal {ns : List Node} :
    startsWith (literal .initial a) (literal .initial b :: ns) = true ↔ a = b := by
  simp [startsWith, literal, Node.sameLeaf, Char.toNat_inj]

theorem oneOf_singletons (h : a ≠ b) : oneOf .initial [branchOf [a], branchOf [b]] =
    .char (.set .full false false [.code a.toNat, .code b.toNat]) := by
  have hne : a.toNat ≠ b.toNat := fun h' => h (Char.toNat_inj.mp h')
  have hdistinct : [Member.code a.toNat, .code b.toNat].eraseDups =
      [.code a.toNat, .code b.toNat] := by
    simp [List.eraseDups_cons, hne.symm]
  rw [← hdistinct]
  rfl

theorem membersOf?_branchOf (h : as.length ≠ 1) : membersOf? (branchOf as) = none := by
  match as with
  | [] => rfl
  | [c] => exact absurd rfl h
  | _ :: _ :: _ => rfl

theorem oneOf_of_length (h : as.length ≠ 1 ∨ bs.length ≠ 1) :
    oneOf .initial [branchOf as, branchOf bs] = .choice [branchOf as, branchOf bs] := by
  have hnone : [branchOf as, branchOf bs].mapM membersOf? = none := by
    rcases h with h | h
    · simp [membersOf?_branchOf h]
    · cases membersOf? (branchOf as) <;> simp [membersOf?_branchOf h]
  rw [oneOf, hnone]

theorem joined_of_apart (h : Apart as bs) : joined .initial (branchOf as) [branchOf bs] =
    [oneOf .initial [branchOf as, branchOf bs]] := by
  cases as with
  | nil => rfl
  | cons a as =>
    have hstarts : startsWith (literal .initial a) (branchOf bs) = false := by
      cases bs with
      | nil => rfl
      | cons b bs =>
        rw [Bool.eq_false_iff, branchOf, List.map_cons, Ne, startsWith_literal]
        rintro rfl
        exact h a rfl rfl
    simp only [branchOf, List.map_cons] at hstarts ⊢
    simp only [joined, List.all_cons, hstarts, Bool.false_and, Bool.false_eq_true, if_false]

theorem joined_cons_self : joined .initial (branchOf (a :: as)) [branchOf (a :: bs)] =
    literal .initial a :: joined .initial (branchOf as) [branchOf bs] := by
  have hstarts : startsWith (literal .initial a) (branchOf (a :: bs)) = true :=
    startsWith_literal.mpr rfl
  have hall : [branchOf (a :: bs)].all (startsWith (literal .initial a)) = true := by
    rw [List.all_cons, hstarts]
    rfl
  exact if_pos hall

end Shape

section Fit

variable (s : Spot) (rest : Rest)

theorem tryAll_singleton (n : Node) : tryAll text.toArray widths [n] s rest =
    n.attempt text.toArray widths s rest := rfl

theorem tryAny_pair (xs ys : List Node) : tryAny text.toArray widths [xs, ys] s rest =
    (tryAll text.toArray widths xs s rest).or (tryAll text.toArray widths ys s rest) := by
  rw [tryAny_cons, tryAny_cons]
  exact congrArg _ (Option.or_none)

/-- Tries one name and then the other, each unless the other hides it. -/
def tryHeard (text : List Char) (widths : List (Option Width)) (as bs : List Char) : Part :=
  fun s rest =>
    (if Hides bs as then none else tryAll text.toArray widths (branchOf as) s rest).or
      (if Hides as bs then none else tryAll text.toArray widths (branchOf bs) s rest)

theorem attempt_set (h : a ≠ b) :
    (Node.char (.set .full false false [.code a.toNat, .code b.toNat])).attempt text.toArray widths
      s rest = tryHeard text widths [a] [b] s rest := by
  have hrule : Options.initial.caseRule = .full := rfl
  rw [attempt_char]
  simp only [tryHeard, hides_singleton, branchOf, List.map_cons, List.map_nil, tryAll_singleton,
    literal, attempt_char, hrule, literal_has, ne_eq, h, h.symm, not_false_eq_true, true_and]
  cases text.drop s.position with
  | nil => simp
  | cons c cs =>
    simp only [CharTest.has, List.any_cons, List.any_nil, member_has, Bool.bne_false,
      Bool.or_false]
    -- what follows is the same for both names, so their order does not count
    cases isFarUppercase a <;> cases isFarUppercase b <;> cases Text.sameLetter a c <;>
      cases Text.sameLetter b c <;> simp

theorem tryAll_of_apart (h : Apart as bs) : tryAll text.toArray widths
    [oneOf .initial [branchOf as, branchOf bs]] s rest = tryHeard text widths as bs s rest := by
  by_cases hlong : as.length ≠ 1 ∨ bs.length ≠ 1
  · rw [oneOf_of_length hlong, tryAll_singleton]
    change tryAny text.toArray widths _ s rest = _
    rw [tryAny_pair, tryHeard, if_neg (not_hides_of_apart h.symm hlong.symm),
      if_neg (not_hides_of_apart h hlong)]
  · obtain ⟨⟨a, rfl⟩, b, rfl⟩ : (∃ a, as = [a]) ∧ ∃ b, bs = [b] := by
      rw [not_or, not_not, not_not] at hlong
      exact ⟨List.length_eq_one_iff.mp hlong.1, List.length_eq_one_iff.mp hlong.2⟩
    have hab : a ≠ b := fun hab => h a rfl (hab ▸ rfl)
    rw [oneOf_singletons hab, tryAll_singleton, attempt_set s rest hab]

/-- A common first character is matched before the choice. -/
theorem tryHeard_cons_self : tryHeard text widths (a :: as) (a :: bs) s rest =
    (literal .initial a).attempt text.toArray widths s fun s' =>
      tryHeard text widths as bs s' rest := by
  simp only [tryHeard, hides_cons_self, branchOf, List.map_cons, tryAll_cons, literal, attempt_char]
  cases text.drop s.position with
  | nil => simp
  | cons c cs =>
    by_cases hc : (CharTest.code Options.initial.caseRule false a.toNat).has c = true
    · simp only [hc, if_true]
    · simp [hc]

theorem tryAll_joined (as bs : List Char) : tryAll text.toArray widths
    (joined .initial (branchOf as) [branchOf bs]) s rest = tryHeard text widths as bs s rest := by
  induction as generalizing bs s with
  | nil =>
    have hapart : Apart [] bs := fun c hc => by cases hc
    rw [joined_of_apart hapart, tryAll_of_apart s rest hapart]
  | cons a as ih =>
    by_cases hapart : Apart (a :: as) bs
    · rw [joined_of_apart hapart, tryAll_of_apart s rest hapart]
    · obtain ⟨bs, rfl⟩ : ∃ bs', bs = a :: bs' := by
        simp only [Apart, List.head?_cons, Option.mem_some, forall_eq', not_not] at hapart
        exact ⟨_, List.eq_cons_of_mem_head? hapart⟩
      rw [joined_cons_self, tryAll_cons, tryHeard_cons_self]
      exact congrArg _ (funext fun s' => ih s' bs)

/-- A choice between at most two names tries the names that are heard in order. -/
theorem tryAll_names (name : String) {others : List String} (h : others.length ≤ 1) :
    tryAll text.toArray widths
        (joined .initial (branchOf name.toList) (others.map fun n => branchOf n.toList)) s rest =
      (heard (name :: others)).findSome? fun n =>
        tryAll text.toArray widths (branchOf n.toList) s rest := by
  match others with
  | [] =>
    have hheard : heard [name] = [name] := by simp [heard, not_hides_self]
    rw [List.map_nil, joined_nil, hheard]
    simp
  | [other] =>
    have hheard : heard [name, other] =
        (if Hides other.toList name.toList then [] else [name]) ++
          if Hides name.toList other.toList then [] else [other] := by
      by_cases hname : Hides other.toList name.toList <;>
        by_cases hother : Hides name.toList other.toList <;>
          simp [heard, not_hides_self, hname, hother]
    rw [List.map_cons, List.map_nil, tryAll_joined, tryHeard, hheard, List.findSome?_append]
    congr 1
    · split <;> simp
    · split <;> simp
  | _ :: _ :: _ => simp at h

end Fit

end Pattern

end ScriptHelp
