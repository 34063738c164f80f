import Mathlib.Data.List.Forall2
import ScriptHelp.Proofs.LetterCase
import ScriptHelp.Proofs.PatternReading
import ScriptHelp.Reply.Address

namespace ScriptHelp

namespace Address

/-- The characters are those of the name up to case. -/
abbrev Spells (name : List Char) (w : List Char) : Prop :=
  List.Forall₂ (fun n c => Text.sameLetter n c = true) name w

theorem spells_cons {n c : Char} {ns cs : List Char} :
    Spells (n :: ns) (c :: cs) ↔ Text.sameLetter n c = true ∧ Spells ns cs := List.forall₂_cons

variable {name text rest : List Char}

theorem after?_eq_some_iff :
    after? name text = some rest ↔ ∃ w, Spells name w ∧ text = w ++ rest := by
  induction name generalizing text with
  | nil =>
    constructor
    · exact fun h => ⟨[], .nil, Option.some.inj h⟩
    · rintro ⟨_, hw, rfl⟩
      cases hw
      rfl
  | cons n ns ih =>
    cases text with
    | nil =>
      simp only [after?, reduceCtorEq, false_iff]
      rintro ⟨w, hw, htext⟩
      cases hw
      cases htext
    | cons c cs =>
      rw [after?]
      split
      · rename_i hc
        rw [ih]
        constructor
        · rintro ⟨w, hw, rfl⟩
          exact ⟨c :: w, .cons hc hw, rfl⟩
        · rintro ⟨_, hw, htext⟩
          cases hw with
          | cons _ hw =>
            obtain ⟨rfl, rfl⟩ := List.cons.inj htext
            exact ⟨_, hw, rfl⟩
      · rename_i hc
        simp only [reduceCtorEq, false_iff]
        rintro ⟨_, hw, htext⟩
        cases hw with
        | cons hd _ =>
          obtain ⟨rfl, rfl⟩ := List.cons.inj htext
          exact hc hd

theorem after?_append (name more text : List Char) :
    after? (name ++ more) text = (after? name text).bind (after? more) := by
  induction name generalizing text with
  | nil => rfl
  | cons n ns ih =>
    cases text with
    | nil => rfl
    | cons c cs =>
      rw [List.cons_append, after?, after?]
      split
      · exact ih cs
      · rfl

end Address

namespace Pattern

open Address

variable {text : List Char} {widths : List (Option Width)} {s : Spot} {rest : Rest}

theorem literal_has (n c : Char) :
    (CharTest.code .full false n.toNat).has c = Text.sameLetter n c := by
  simp only [CharTest.has, CaseRule.alike, CaseRule.lowerCode, Text.sameLetter, if_true,
    List.contains_cons, Bool.bne_false]

theorem tryAll_cons (n : Node) (ns : List Node) (s : Spot) (rest : Rest) :
    tryAll text.toArray widths (n :: ns) s rest =
      n.attempt text.toArray widths s fun s' => tryAll text.toArray widths ns s' rest := rfl

theorem tryAll_append (xs ys : List Node) (s : Spot) (rest : Rest) :
    tryAll text.toArray widths (xs ++ ys) s rest =
      tryAll text.toArray widths xs s fun s' => tryAll text.toArray widths ys s' rest := by
  induction xs generalizing s with
  | nil => rfl
  | cons x xs ih => simp only [List.cons_append, tryAll_cons, ih]

/-- Matching one character consumes it from the text. -/
theorem attempt_char (t : CharTest) (s : Spot) (rest : Rest) :
    (Node.char t).attempt text.toArray widths s rest = match text.drop s.position with
      | c :: _ => if t.has c then rest { s with position := s.position + 1 } else none
      | [] => none := by
  rw [Node.attempt]
  simp only [List.getElem?_toArray]
  cases hd : text[s.position]? with
  | none => rw [List.drop_eq_nil_of_le (List.getElem?_eq_none_iff.mp hd)]
  | some d =>
    obtain ⟨hlt, rfl⟩ := List.getElem?_eq_some_iff.mp hd
    rw [List.drop_eq_getElem_cons hlt]

/-- Literals match where the text spells them. -/
theorem tryAll_literals (cs : List Char) (s : Spot) (rest : Rest) :
    tryAll text.toArray widths (cs.map (literal .initial)) s rest =
      if (after? cs (text.drop s.position)).isSome then
        rest { s with position := s.position + cs.length }
      else none := by
  induction cs generalizing s with
  | nil => rfl
  | cons c cs ih =>
    rw [List.map_cons, tryAll_cons, literal, attempt_char]
    cases hd : text.drop s.position with
    | nil => rfl
    | cons d ds =>
      have hds : text.drop (s.position + 1) = ds := by rw [← List.drop_drop, hd]; rfl
      have hrule : Options.initial.caseRule = .full := rfl
      simp only [hrule, literal_has, after?, ih, hds, List.length_cons, Nat.add_assoc,
        Nat.add_comm 1]
      split <;> rfl

theorem mayStart_literals (ascii : Bool) (cs : List Char) (next : Option Char) :
    mayStart ascii (cs.map (literal .initial)) next = true := by
  cases cs <;> rfl

/-- A pattern of literals occurs in the texts that spell it somewhere. -/
theorem occursIn_literals (ascii : Bool) (cs : List Char) (s : String) :
    (Pattern.mk (cs.map (literal .initial)) widths ascii).occursIn s = true ↔
      ∃ w, Spells cs w ∧ w <:+: s.toList := by
  simp only [occursIn, mayStart_literals, Bool.true_and, List.any_eq_true, List.mem_range,
    tryAll_literals, List.size_toArray, Nat.lt_succ_iff]
  constructor
  · rintro ⟨start, -, hstart⟩
    cases hrest : after? cs (s.toList.drop start) with
    | none => simp [hrest] at hstart
    | some rest =>
      obtain ⟨w, hw, htext⟩ := after?_eq_some_iff.mp hrest
      refine ⟨w, hw, s.toList.take start, rest, ?_⟩
      rw [List.append_assoc, ← htext, List.take_append_drop]
  · rintro ⟨w, hw, before, after, htext⟩
    refine ⟨before.length, ?_, ?_⟩
    · rw [← htext, List.append_assoc, List.length_append]
      exact Nat.le_add_right _ _
    · have hrest : after? cs (s.toList.drop before.length) = some after := by
        rw [← htext, List.append_assoc, List.drop_left]
        exact after?_eq_some_iff.mpr ⟨w, hw, rfl⟩
      simp [hrest]

theorem tryAny_cons (b : List Node) (bs : List (List Node)) (s : Spot) (rest : Rest) :
    tryAny text.toArray widths (b :: bs) s rest = (tryAll text.toArray widths b s rest).or
      (tryAny text.toArray widths bs s rest) := by
  cases hb : tryAll text.toArray widths b s rest with
  | none => simp only [tryAny, hb, Option.none_or]
  | some r => simp only [tryAny, hb, Option.some_or]

end Pattern

end ScriptHelp
