import ScriptHelp.Pattern

namespace ScriptHelp.Pattern

def metacharacters : List Char :=
  ['.', '^', '$', '*', '+', '?', '\x7b', '\x7d', '[', ']', '\\', '|', '(', ')']

def Token.IsLiteral : Token → Prop
  | ⟨true, c⟩ => isAsciiLetter c = false ∧ isDigit c = false
  | ⟨false, c⟩ => c ∉ metacharacters

def literal (o : Options) (c : Char) : Node := .char (.code o.caseRule false c.toNat)

def literals (o : Options) (ts : List Token) : List Node := ts.map fun t => literal o t.char

theorem spliced_literals (o : Options) (ts : List Token) :
    spliced (literals o ts) = literals o ts := by
  induction ts with
  | nil => rfl
  | cons t ts ih => exact congrArg (literal o t.char :: ·) ih

def IsRow (ns : List Node) : Prop := ∀ n ∈ ns, ∃ t, n = .char t

theorem isRow_literals (o : Options) (ts : List Token) : IsRow (literals o ts) := by
  intro n hn
  obtain ⟨t, -, rfl⟩ := List.mem_map.mp hn
  exact ⟨_, rfl⟩

namespace IsRow

variable {ns : List Node} (h : IsRow ns)
include h

theorem tail : IsRow ns.tail := fun n hn => h n (List.mem_of_mem_tail hn)

theorem widthFramesOf_eq : widthFramesOf ns = 0 := by
  induction ns with
  | nil => rfl
  | cons n ns ih =>
    obtain ⟨⟨t, rfl⟩, hns⟩ := List.forall_mem_cons.mp h
    rw [widthFramesOf, Node.widthFrames, ih hns]
    rfl

theorem compileAll_eq (widths : List (Option Width)) (noRepetition : Bool) (room : Nat) :
    compileAll widths noRepetition room ns = .ok () := by
  induction ns with
  | nil => rfl
  | cons n ns ih =>
    obtain ⟨⟨t, rfl⟩, hns⟩ := List.forall_mem_cons.mp h
    exact ih hns

theorem compile_eq (widths : List (Option Width)) (noRepetition : Bool) (room : Nat) :
    compile widths noRepetition room ns = .ok () := by
  rw [compile, h.widthFramesOf_eq, if_neg (Nat.not_lt_zero room), h.compileAll_eq]

end IsRow

theorem tokensOf_cons {c : Char} (h : c ≠ '\\') (cs : List Char) :
    tokensOf (c :: cs) = (⟨false, c⟩ :: (tokensOf cs).1, (tokensOf cs).2) := by
  rw [tokensOf.eq_def]
  exact if_neg h

theorem tokensOf_plain {cs : List Char} (h : '\\' ∉ cs) :
    tokensOf cs = (cs.map (Token.mk false), false) := by
  induction cs with
  | nil => rfl
  | cons c cs ih =>
    rw [List.mem_cons, not_or] at h
    rw [tokensOf_cons (Ne.symm h.1), ih h.2]
    rfl

theorem bind_ok {ε α β : Type} (a : α) (k : α → Except ε β) : (Except.ok a >>= k) = k a := rfl

def Reader.facing (r : Reader) (ts : List Token) : Reader := { r with tokens := ts }

def Reader.within (r : Reader) (room : Nat) : Reader := { r with room }

namespace Read

variable {r : Reader} {o : Options} {t : Token} {ts row stop : List Token}
  {rows : List (List Token)} {c : Char} {fuel : Nat} {mayChange first : Bool} {done : List Node}

section Steps

theorem get_run (r : Reader) : (get : Read Reader).run r = .ok (r, r) := rfl

theorem peek_run (r : Reader) : peek.run r = .ok (r.tokens.head?, r) := rfl

theorem peek_facing (r : Reader) (t : Token) (ts : List Token) :
    peek.run (r.facing (t :: ts)) = .ok (some t, r.facing (t :: ts)) := rfl

theorem accept_run_of_not (h : ∀ t ∈ ts.head?, t.isPlain c = false) :
    (accept c).run (r.facing ts) = .ok (false, r.facing ts) := by
  rw [accept, StateT.run_bind, peek_run, bind_ok]
  cases ts with
  | nil => rfl
  | cons t ts =>
    have ht : t.isPlain c = false := h t rfl
    simp only [Reader.facing, List.head?_cons, ht]
    rfl

/-- A nested part that fits the stack is read with that much less room. -/
theorem nested_run {α : Type} {frames : Nat} {inner : Read α} {a : α} (hroom : frames ≤ r.room)
    (hinner : inner.run ((r.within (r.room - frames)).facing row) =
      .ok (a, (r.within (r.room - frames)).facing ts)) :
    (nested frames inner).run (r.facing row) = .ok (a, r.facing ts) := by
  have hfits : ¬ (r.facing row).room < frames := Nat.not_lt.mpr hroom
  have hlower : StateT.run
      (modify fun x => { x with room := (r.facing row).room - frames } : Read _)
      (r.facing row) = .ok ((), (r.within (r.room - frames)).facing row) := rfl
  rw [nested, StateT.run_bind, get_run, bind_ok]
  simp only [hfits, if_false, StateT.run_bind, StateT.run_pure]
  change (StateT.run (modify _) (r.facing row) >>= _) = _
  rw [hlower, bind_ok, hinner]
  rfl

variable (hr : r.endsInBackslash = false)
include hr

theorem advance_run : advance.run (r.facing (t :: ts)) = .ok ((), r.facing ts) := by
  simp [advance, checkEnd, Reader.facing, hr, StateT.run_bind]
  rfl

theorem need_run : need.run (r.facing (t :: ts)) = .ok (t, r.facing ts) := by
  simp only [need, next, StateT.run_bind, peek_facing, advance_run hr, bind_ok]
  rfl

theorem accept_run : (accept c).run (r.facing (⟨false, c⟩ :: ts)) = .ok (true, r.facing ts) := by
  have hplain : Token.isPlain ⟨false, c⟩ c = true := by simp [Token.isPlain]
  rw [accept, StateT.run_bind, peek_facing, bind_ok]
  simp only [hplain, if_true, StateT.run_bind, advance_run hr, bind_ok]
  rfl

end Steps

theorem anchor?_eq_none (ascii : Bool) (h : isAsciiLetter c = false) : anchor? ascii c = none := by
  unfold anchor?
  split <;> simp [isAsciiLetter] at h ⊢

theorem category?_eq_none (h : isAsciiLetter c = false) : category? c = none := by
  unfold category?
  split <;> simp [isAsciiLetter] at h ⊢

theorem control?_eq_none (h : isAsciiLetter c = false) (hc : c ≠ '\\') : control? c = none := by
  unfold control?
  split <;> simp [isAsciiLetter] at h hc ⊢

theorem escape_run (ascii : Bool) (hletter : isAsciiLetter c = false) (hdigit : isDigit c = false)
    (r : Reader) : (escape ascii c).run r = .ok (.code c.toNat, r) := by
  by_cases hbackslash : c = '\\'
  · subst hbackslash
    cases ascii <;> rfl
  · have hne : ∀ d, isAsciiLetter d = true ∨ isDigit d = true → c ≠ d := by
      rintro d hd rfl
      simp [hletter, hdigit] at hd
    have hcommon : (commonEscape c).run r = .ok (.code c.toNat, r) := by
      simp only [commonEscape, hne 'x' (by decide), hne 'u' (by decide), hne 'U' (by decide),
        hne 'N' (by decide), hletter, hdigit]
      rfl
    simp only [escape, anchor?_eq_none ascii hletter, category?_eq_none hletter,
      control?_eq_none hletter hbackslash, hne '0' (by decide), hdigit]
    exact hcommon

def Stops (ts : List Token) : Prop := ∀ t ∈ ts.head?, t.isPlain '|' = true ∨ t.isPlain ')' = true

theorem sequence_stop (hts : Stops ts) : (sequence (fuel + 1) o mayChange done).run (r.facing ts) =
    .ok (spliced done.reverse, r.facing ts) := by
  rw [sequence, StateT.run_bind, peek_run, bind_ok]
  cases ts with
  | nil => rfl
  | cons t ts =>
    have ht : (t.isPlain '|' || t.isPlain ')') = true := by simpa using hts t rfl
    simp only [Reader.facing, List.head?_cons, ht, if_true]
    rfl

def barred (row : List Token) : (rows : List (List Token)) → List Token
  | [] => row
  | next :: rows => row ++ ⟨false, '|'⟩ :: barred next rows

section Sequences

variable (hr : r.endsInBackslash = false) (ho : o.verbose = false)
include hr ho

theorem sequence_literal (ht : t.IsLiteral) :
    (sequence (fuel + 1) o mayChange done).run (r.facing (t :: ts)) =
      (sequence fuel o mayChange (literal o t.char :: done)).run (r.facing ts) := by
  rw [sequence, StateT.run_bind, peek_facing, bind_ok]
  obtain ⟨escaped, c⟩ := t
  cases escaped with
  | true =>
    obtain ⟨hletter, hdigit⟩ := ht
    simp [Token.isPlain, ho, advance_run hr, bind_ok, escapedNode, escape_run _ hletter hdigit]
    rfl
  | false =>
    have hc : c ∉ metacharacters := ht
    simp only [metacharacters, List.mem_cons, not_or] at hc
    simp [Token.isPlain, ho, hc, advance_run hr, bind_ok]
    rfl

theorem sequence_literals (hrow : ∀ t ∈ row, t.IsLiteral) :
    (sequence (fuel + row.length) o mayChange done).run (r.facing (row ++ ts)) =
      (sequence fuel o mayChange ((literals o row).reverse ++ done)).run (r.facing ts) := by
  induction row generalizing done with
  | nil => rfl
  | cons t row ih =>
    rw [List.cons_append, List.length_cons, ← Nat.add_assoc,
      sequence_literal hr ho (hrow t List.mem_cons_self),
      ih fun u hu => hrow u (List.mem_cons_of_mem t hu)]
    simp only [literals, List.map_cons, List.reverse_cons, List.append_assoc, List.cons_append,
      List.nil_append]

/-- A row is read as its characters, up to where it stops. -/
theorem sequence_row (hrow : ∀ t ∈ row, t.IsLiteral) (hstop : Stops stop)
    (hfuel : row.length < fuel) : (sequence fuel o mayChange []).run (r.facing (row ++ stop)) =
      .ok (literals o row, r.facing stop) := by
  obtain ⟨k, rfl⟩ : ∃ k, fuel = k + 1 + row.length := ⟨fuel - row.length - 1, by omega⟩
  rw [sequence_literals hr ho hrow, sequence_stop hstop, List.append_nil, List.reverse_reverse,
    spliced_literals]

theorem sequence_textStart (hlines : o.multiline = false) :
    (sequence (fuel + 1) o mayChange done).run (r.facing (⟨false, '^'⟩ :: ts)) =
      (sequence fuel o mayChange (.anchor .textStart :: done)).run (r.facing ts) := by
  rw [sequence, StateT.run_bind, peek_facing, bind_ok]
  simp [Token.isPlain, ho, hlines, advance_run hr, bind_ok]

/-- A literal with a question mark is read as optional. -/
theorem sequence_optional (hts : ∀ t ∈ ts.head?, t.isPlain '?' = false ∧ t.isPlain '+' = false)
    (test : CharTest) :
    (sequence (fuel + 1) o mayChange (.char test :: done)).run (r.facing (⟨false, '?'⟩ :: ts)) =
      (sequence fuel o mayChange (.repetition .greedy 0 (some 1) [.char test] :: done)).run
        (r.facing ts) := by
  have hgreed : greed.run (r.facing ts) = .ok (.greedy, r.facing ts) := by
    have hquestion := accept_run_of_not (r := r) fun t ht => (hts t ht).1
    have hplus := accept_run_of_not (r := r) fun t ht => (hts t ht).2
    simp [greed, hquestion, hplus, bind_ok]
    rfl
  rw [sequence, StateT.run_bind, peek_facing, bind_ok]
  simp [Token.isPlain, ho, advance_run hr, bind_ok, count, repeatLast, hgreed]

/-- A non-capturing group without flags takes two stack frames. -/
theorem sequence_group {body : List Node} (hroom : 2 ≤ r.room)
    (hbody : (group fuel o).run ((r.within (r.room - 2)).facing row) =
      .ok (body, (r.within (r.room - 2)).facing (⟨false, ')'⟩ :: ts))) :
    (sequence (fuel + 1) o mayChange done).run
        (r.facing (⟨false, '('⟩ :: ⟨false, '?'⟩ :: ⟨false, ':'⟩ :: row)) =
      (sequence fuel o mayChange (.group none body :: done)).run (r.facing ts) := by
  have hopening : (opening o).run (r.facing (⟨false, '?'⟩ :: ⟨false, ':'⟩ :: row)) =
      .ok (.body none, r.facing row) := by
    simp [opening, accept_run hr, bind_ok, need_run hr]
    rfl
  rw [sequence, StateT.run_bind, peek_facing, bind_ok]
  simp [Token.isPlain, ho, advance_run hr, bind_ok, hopening, nested_run hroom hbody, needClose,
    accept_run hr]

/-- Rows separated by bars are read as the branches of a choice. -/
theorem choice_rows (hrow : ∀ t ∈ row, t.IsLiteral) (hrows : ∀ next ∈ rows, ∀ t ∈ next, t.IsLiteral)
    (hfuel : (barred row rows).length + 1 < fuel) :
    (choice fuel o false first).run (r.facing (barred row rows ++ ⟨false, ')'⟩ :: ts)) =
      .ok ((literals o row, rows.map (literals o)), r.facing (⟨false, ')'⟩ :: ts)) := by
  induction rows generalizing row fuel first with
  | nil =>
    obtain ⟨fuel, rfl⟩ : ∃ k, fuel = k + 1 := ⟨fuel - 1, by omega⟩
    have hstop : Stops (⟨false, ')'⟩ :: ts) := by simp [Stops, Token.isPlain]
    have hbar : ∀ t ∈ (⟨false, ')'⟩ :: ts : List Token).head?, t.isPlain '|' = false := by
      simp [Token.isPlain]
    simp only [barred] at hfuel ⊢
    rw [choice, StateT.run_bind, sequence_row hr ho hrow hstop (by omega), bind_ok,
      StateT.run_bind, accept_run_of_not hbar, bind_ok]
    rfl
  | cons next rows ih =>
    obtain ⟨fuel, rfl⟩ : ∃ k, fuel = k + 1 := ⟨fuel - 1, by omega⟩
    simp only [barred, List.length_append, List.length_cons] at hfuel ⊢
    -- what comes after the bar is read as the other branches
    have hnext : (choice fuel o false false).run
        (r.facing (barred next rows ++ ⟨false, ')'⟩ :: ts)) =
        .ok ((literals o next, rows.map (literals o)), r.facing (⟨false, ')'⟩ :: ts)) :=
      ih (hrows next List.mem_cons_self) (fun x hx => hrows x (List.mem_cons_of_mem next hx))
        (by omega)
    have hstop : Stops (⟨false, '|'⟩ :: (barred next rows ++ ⟨false, ')'⟩ :: ts)) := by
      simp [Stops, Token.isPlain]
    rw [List.append_assoc, List.cons_append, choice, StateT.run_bind,
      sequence_row hr ho hrow hstop (by omega), bind_ok, StateT.run_bind, accept_run hr, bind_ok]
    simp only [if_true, Bool.false_eq_true, if_false, StateT.run_bind, get_run, bind_ok, hnext]
    rfl

end Sequences

end Read

def Reader.start (room : Nat) (ts : List Token) : Reader :=
  ⟨ts, false, .initial, false, false, [], [], none, 0, room⟩

/-- A pattern without groups is the sequence its tokens are read as. -/
theorem ofString_of_sequence {room : Nat} {s : String} {ts : List Token} {body : List Node}
    (hts : tokensOf s.toList = (ts, false))
    (hbody : (Read.sequence (4 * ts.length + 7) .initial true []).run (.start room ts) =
      .ok (body, .start room []))
    (hcompile : compile [] false room body = .ok ()) :
    Pattern.ofString room s = .ok ⟨body, [], false⟩ := by
  have hchoice : (Read.choice (4 * ts.length + 8) .initial true true).run (.start room ts) =
      .ok ((body, []), .start room []) := by
    rw [Read.choice, StateT.run_bind]
    change (StateT.run (Read.sequence (4 * ts.length + 7) .initial true [])
      (.start room ts) >>= _) = _
    rw [hbody]
    rfl
  have hwhole : Read.whole.run (.start room ts) = .ok (body, .start room []) := by
    have hcheck : Read.checkEnd.run (.start room ts) = .ok ((), .start room ts) := by
      simp [Read.checkEnd, Reader.start, StateT.run_bind]
      rfl
    rw [Read.whole, StateT.run_bind, hcheck, bind_ok, StateT.run_bind, Read.get_run, bind_ok,
      StateT.run_bind, Read.get_run, bind_ok, StateT.run_bind]
    change (StateT.run (Read.choice (4 * ts.length + 8) .initial true true)
      (.start room ts) >>= _) = _
    rw [hchoice, bind_ok, StateT.run_bind, Read.get_run, bind_ok]
    simp only [Reader.start, joined_nil, hcompile]
    rfl
  rw [Pattern.ofString, hts]
  change (Read.whole.run (.start room ts) >>= _) = _
  rw [hwhole]
  rfl

/-- A text without metacharacters compiles to its literals, whatever room is left. -/
theorem ofString_plain (room : Nat) {s : String} (h : ∀ c ∈ s.toList, c ∉ metacharacters) :
    Pattern.ofString room s = .ok ⟨s.toList.map (literal .initial), [], false⟩ := by
  let row := s.toList.map (Token.mk false)
  have hbackslash : '\\' ∉ s.toList := fun hc => h _ hc (by decide)
  have hrow : ∀ t ∈ row, t.IsLiteral := by
    intro t ht
    obtain ⟨c, hc, rfl⟩ := List.mem_map.mp ht
    exact h c hc
  have hbody : (Read.sequence (4 * row.length + 7) .initial true []).run
      ((Reader.start room []).facing (row ++ [])) = .ok (literals .initial row, .start room []) :=
    Read.sequence_row rfl rfl hrow (by simp [Read.Stops]) (by omega)
  rw [List.append_nil] at hbody
  have hchars : literals .initial row = s.toList.map (literal .initial) := by
    rw [literals, List.map_map]
    rfl
  rw [← hchars]
  exact ofString_of_sequence (tokensOf_plain hbackslash) hbody
    ((isRow_literals _ row).compile_eq _ _ _)

end ScriptHelp.Pattern
