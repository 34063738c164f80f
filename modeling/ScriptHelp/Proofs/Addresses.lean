import ScriptHelp.Proofs.NameChoices
import ScriptHelp.Proofs.Results
import ScriptHelp.Reply.Responder

namespace ScriptHelp

namespace Address

open Pattern

def tokens (name : List Char) : List Pattern.Token := name.map fun c => ⟨marked.contains c, c⟩

theorem isLiteral_of_mem_tokens {name : List Char} {t : Pattern.Token} (ht : t ∈ tokens name) :
    t.IsLiteral := by
  have hmarked : marked.all (fun c => !isAsciiLetter c && !isDigit c) = true := by decide
  have hmeta : metacharacters.all marked.contains = true := by decide
  obtain ⟨c, -, rfl⟩ := List.mem_map.mp ht
  by_cases hc : c ∈ marked
  · rw [List.contains_iff_mem.mpr hc]
    simpa [Pattern.Token.IsLiteral] using List.all_eq_true.mp hmarked c hc
  · rw [List.contains_eq_mem, decide_eq_false hc]
    exact fun h => hc (List.contains_iff_mem.mp (List.all_eq_true.mp hmeta c h))

theorem literals_tokens (name : List Char) : literals .initial (tokens name) = branchOf name := by
  rw [literals, tokens, List.map_map]
  rfl

theorem tokensOf_escaped (name rest : List Char) : tokensOf (escaped name ++ rest) =
    (tokens name ++ (tokensOf rest).1, (tokensOf rest).2) := by
  induction name with
  | nil => rfl
  | cons c cs ih =>
    have hcons : escaped (c :: cs) =
        (if marked.contains c then ['\\', c] else [c]) ++ escaped cs := List.flatMap_cons
    rw [hcons, List.append_assoc, tokens, List.map_cons]
    by_cases hc : marked.contains c = true
    · rw [if_pos hc, hc, List.cons_append, List.cons_append, List.nil_append, tokensOf, if_pos rfl,
        ih]
      rfl
    · have hplain : c ≠ '\\' := by
        rintro rfl
        exact hc (by decide)
      rw [if_neg hc, Bool.eq_false_iff.mpr hc, List.cons_append, List.nil_append,
        tokensOf_cons hplain, ih]
      rfl

theorem tokensOf_intercalate (name : List Char) (others : List (List Char)) (rest : List Char) :
    tokensOf (['|'].intercalate (escaped name :: others.map escaped) ++ rest) =
      (Read.barred (tokens name) (others.map tokens) ++ (tokensOf rest).1, (tokensOf rest).2) := by
  induction others generalizing name with
  | nil => simpa [Read.barred] using tokensOf_escaped name rest
  | cons other others ih =>
    rw [List.map_cons, List.intercalate_cons_cons, List.append_assoc, List.append_assoc,
      tokensOf_escaped, List.cons_append, List.nil_append, tokensOf_cons (by decide), ih]
    simp [Read.barred]

section Compiled

variable {o : Options}

theorem widthFramesOf_append (xs ys : List Node) :
    widthFramesOf (xs ++ ys) = max (widthFramesOf xs) (widthFramesOf ys) := by
  induction xs with
  | nil => exact (Nat.zero_max _).symm
  | cons x xs ih => rw [List.cons_append, widthFramesOf, widthFramesOf, ih, Nat.max_assoc]

/-- One stack frame suffices to measure and to compile the nodes. -/
def Shallow (ns : List Node) : Prop :=
  widthFramesOf ns ≤ 1 ∧ ∀ room, compileAll [] false (room + 1) ns = .ok ()

theorem Shallow.compile_eq {ns : List Node} (h : Shallow ns) (room : Nat) :
    compile [] false (room + 1) ns = .ok () := by
  have hframes : ¬ room + 1 < widthFramesOf ns := by
    have := h.1
    omega
  rw [compile, if_neg hframes, h.2]

theorem shallow_of_isRow {ns : List Node} (h : IsRow ns) : Shallow ns :=
  ⟨h.widthFramesOf_eq ▸ Nat.zero_le 1, fun _ => h.compileAll_eq _ _ _⟩

theorem compileAll_append {room : Nat} {xs ys : List Node}
    (hx : compileAll [] false room xs = .ok ()) :
    compileAll [] false room (xs ++ ys) = compileAll [] false room ys := by
  induction xs with
  | nil => rfl
  | cons x xs ih =>
    rw [compileAll] at hx
    obtain ⟨u, hfirst, hrest⟩ := exists_of_bind_eq_ok hx
    rw [List.cons_append, compileAll, hfirst]
    exact ih hrest

theorem Shallow.append {xs ys : List Node} (hx : Shallow xs) (hy : Shallow ys) :
    Shallow (xs ++ ys) :=
  ⟨widthFramesOf_append xs ys ▸ Nat.max_le.mpr ⟨hx.1, hy.1⟩,
    fun room => (compileAll_append (hx.2 room)).trans (hy.2 room)⟩

theorem shallow_oneOf {branches : List (List Node)} (h : ∀ b ∈ branches, IsRow b) :
    Shallow [oneOf o branches] := by
  have hbranches : widthFramesOfAny branches = 0 ∧
      ∀ room, compileAny [] false room branches = .ok () := by
    induction branches with
    | nil => exact ⟨rfl, fun _ => rfl⟩
    | cons b bs ih =>
      obtain ⟨hb, hbs⟩ := List.forall_mem_cons.mp h
      obtain ⟨hframes, hcompile⟩ := ih hbs
      refine ⟨by rw [widthFramesOfAny, hb.widthFramesOf_eq, hframes]; rfl, fun room => ?_⟩
      rw [compileAny, hb.compileAll_eq]
      exact hcompile room
  unfold oneOf
  split
  · exact shallow_of_isRow fun n hn => ⟨_, List.mem_singleton.mp hn⟩
  · refine ⟨?_, fun room => ?_⟩
    · rw [widthFramesOf, widthFramesOf, Node.widthFrames, hbranches.1]
      decide
    · rw [compileAll, Node.compile, below, hbranches.2]
      rfl

theorem shallow_joined {branch : List Node} {others : List (List Node)} (hbranch : IsRow branch)
    (hothers : ∀ b ∈ others, IsRow b) : Shallow (joined o branch others) := by
  induction branch generalizing others with
  | nil =>
    cases others with
    | nil => exact shallow_of_isRow hbranch
    | cons b bs => exact shallow_oneOf (List.forall_mem_cons.mpr ⟨hbranch, hothers⟩)
  | cons n ns ih =>
    cases others with
    | nil => exact shallow_of_isRow hbranch
    | cons b bs =>
      rw [joined]
      split
      · have htails : ∀ c ∈ (b :: bs).map List.tail, IsRow c := by
          intro c hc
          obtain ⟨d, hd, rfl⟩ := List.mem_map.mp hc
          exact (hothers d hd).tail
        have hn : IsRow [n] := fun m hm => hbranch m (List.mem_singleton.mp hm ▸ List.mem_cons_self)
        exact (shallow_of_isRow hn).append (ih hbranch.tail htails)
      · exact shallow_oneOf (List.forall_mem_cons.mpr ⟨hbranch, hothers⟩)

end Compiled

def parts (name : List Char) (others : List (List Char)) : List Node :=
  .anchor .textStart :: .repetition .greedy 0 (some 1) [literal .initial '@'] ::
    (joined .initial (branchOf name) (others.map branchOf) ++ [literal .initial ' '])

theorem isRow_branchOf (name : List Char) : IsRow (branchOf name) := by
  intro n hn
  obtain ⟨c, -, rfl⟩ := List.mem_map.mp hn
  exact ⟨_, rfl⟩

theorem shallow_parts (name : List Char) (others : List (List Char)) :
    Shallow (parts name others) := by
  have hcall : Shallow [.anchor .textStart,
      .repetition .greedy 0 (some 1) [literal .initial '@']] := ⟨by decide, fun _ => rfl⟩
  have hnames : Shallow (joined .initial (branchOf name) (others.map branchOf)) :=
    shallow_joined (isRow_branchOf name) fun b hb => by
      obtain ⟨n, -, rfl⟩ := List.mem_map.mp hb
      exact isRow_branchOf n
  exact hcall.append (hnames.append (shallow_of_isRow (isRow_branchOf [' '])))

theorem toList_patternOf (name : String) (others : List String) :
    (patternOf (name :: others)).toList = ['^', '@', '?', '(', '?', ':'] ++
      (['|'].intercalate (escaped name.toList :: (others.map String.toList).map escaped) ++
        [')', ' ']) := by
  unfold patternOf
  rw [String.toList_ofList, List.map_cons, List.map_map, List.append_assoc]
  rfl

def nameTokens (name : List Char) (others : List (List Char)) : List Pattern.Token :=
  Read.barred (tokens name) (others.map tokens)

def patternTokens (row : List Pattern.Token) : List Pattern.Token :=
  ⟨false, '^'⟩ :: ⟨false, '@'⟩ :: ⟨false, '?'⟩ :: ⟨false, '('⟩ :: ⟨false, '?'⟩ :: ⟨false, ':'⟩ ::
    (row ++ [⟨false, ')'⟩, ⟨false, ' '⟩])

theorem tokensOf_patternOf (name : String) (others : List String) :
    tokensOf (patternOf (name :: others)).toList =
      (patternTokens (nameTokens name.toList (others.map String.toList)), false) := by
  have hend : tokensOf [')', ' '] = ([⟨false, ')'⟩, ⟨false, ' '⟩], false) := by decide
  rw [toList_patternOf]
  simp only [List.cons_append, List.nil_append]
  iterate 6 rw [tokensOf_cons (by decide)]
  rw [tokensOf_intercalate, hend]
  rfl

theorem group_nameTokens {r : Reader} (hr : r.endsInBackslash = false) (name : List Char)
    (others : List (List Char)) (ts : List Pattern.Token) {fuel : Nat}
    (hfuel : (nameTokens name others).length + 2 < fuel) :
    (Read.group fuel .initial).run (r.facing (nameTokens name others ++ ⟨false, ')'⟩ :: ts)) =
      .ok (joined .initial (branchOf name) (others.map branchOf),
        r.facing (⟨false, ')'⟩ :: ts)) := by
  obtain ⟨fuel, rfl⟩ : ∃ k, fuel = k + 1 := ⟨fuel - 1, by omega⟩
  rw [nameTokens] at hfuel ⊢
  have hothers : ∀ row ∈ others.map tokens, ∀ t ∈ row, t.IsLiteral := by
    intro row hrow
    obtain ⟨n, -, rfl⟩ := List.mem_map.mp hrow
    exact fun t => isLiteral_of_mem_tokens
  have hbranches : (others.map tokens).map (literals .initial) = others.map branchOf := by
    rw [List.map_map]
    exact List.map_congr_left fun n _ => literals_tokens n
  rw [Read.group, StateT.run_bind, Read.choice_rows hr rfl (fun t => isLiteral_of_mem_tokens)
    hothers (by omega), bind_ok, literals_tokens, hbranches]
  rfl

theorem sequence_patternTokens (name : List Char) (others : List (List Char)) {fuel : Nat}
    (hfuel : (nameTokens name others).length + 8 < fuel) :
    (Read.sequence fuel .initial true []).run
        (.start patternRoom (patternTokens (nameTokens name others))) =
      .ok (parts name others, .start patternRoom []) := by
  obtain ⟨fuel, rfl⟩ : ∃ k, fuel = k + 6 := ⟨fuel - 6, by omega⟩
  have hgroup := group_nameTokens (r := (Reader.start patternRoom []).within 0) rfl name others
    [⟨false, ' '⟩]
    (by omega : _ < fuel + 2)
  have hparenthesis : ∀ t ∈ (⟨false, '('⟩ :: ⟨false, '?'⟩ :: ⟨false, ':'⟩ ::
      (nameTokens name others ++ [⟨false, ')'⟩, ⟨false, ' '⟩]) : List Pattern.Token).head?,
      t.isPlain '?' = false ∧ t.isPlain '+' = false := by
    simp [Pattern.Token.isPlain]
  have hat : Pattern.Token.IsLiteral ⟨false, '@'⟩ := show '@' ∉ metacharacters by decide
  have hspace : Pattern.Token.IsLiteral ⟨false, ' '⟩ := show ' ' ∉ metacharacters by decide
  change (Read.sequence (fuel + 6) .initial true []).run ((Reader.start patternRoom []).facing
    (patternTokens (nameTokens name others))) = _
  -- from here on the pattern is read from left to right
  rw [patternTokens, Read.sequence_textStart rfl rfl rfl, Read.sequence_literal rfl rfl hat]
  rw [literal, Read.sequence_optional rfl rfl hparenthesis,
    Read.sequence_group rfl rfl (Nat.le_refl 2) hgroup]
  rw [Read.sequence_literal rfl rfl hspace, Read.sequence_stop (by simp [Read.Stops])]
  rfl

/-- The pattern made of the names compiles, whatever their characters are. -/
theorem ofString_patternOf (name : String) (others : List String) :
    Pattern.ofString patternRoom (patternOf (name :: others)) =
      .ok ⟨parts name.toList (others.map String.toList), [], false⟩ := by
  refine ofString_of_sequence (tokensOf_patternOf name others) ?_
    ((shallow_parts _ _).compile_eq 1)
  refine sequence_patternTokens _ _ ?_
  simp only [patternTokens, List.length_cons, List.length_append, List.length_nil]
  omega

/-- The ways to address a robot in the order they are tried: with `@` before without, the first name
before the second. -/
def ways (names : List String) : List (Bool × String) :=
  names.map (Prod.mk true) ++ names.map (Prod.mk false)

def call (way : Bool × String) : List Char :=
  (if way.1 then ['@'] else []) ++ (way.2.toList ++ [' '])

section Fit

variable {text : List Char} {widths : List (Option Width)} (s : Spot) (rest : Rest)

theorem attempt_optional (n : Node) :
    (Node.repetition .greedy 0 (some 1) [n]).attempt text.toArray widths s rest =
      (n.attempt text.toArray widths s rest).or (rest s) := by
  have hdone : ∀ part : Part, ∀ fuel last, greedily part rest fuel (some 0) last = rest := by
    intro part fuel last
    funext s'
    cases fuel with
    | zero => rfl
    | succ fuel => simp [greedily, mayRepeat]
  have honce : ∀ part : Part, greedily part rest (text.toArray.size + 2) (some 1) none s =
      (part s rest).or (rest s) := by
    intro part
    rw [greedily, Option.map_some, hdone]
    simp only [mayRepeat]
    cases part s rest <;> rfl
  exact honce _

theorem attempt_literal_findSome? {α : Type} (c : Char) (xs : List α) (f : α → Rest) :
    (literal .initial c).attempt text.toArray widths s (fun s' => xs.findSome? fun x => f x s') =
      xs.findSome? fun x => (literal .initial c).attempt text.toArray widths s (f x) := by
  have hnone : xs.findSome? (fun _ => (none : Option Spot)) = none :=
    List.findSome?_eq_none_iff.mpr fun _ _ => rfl
  simp only [literal, attempt_char]
  cases text.drop s.position with
  | nil => rw [hnone]
  | cons d ds =>
    by_cases hd : (CharTest.code Options.initial.caseRule false c.toNat).has d = true
    · simp only [hd, if_true]
    · simp only [hd, Bool.false_eq_true, if_false, hnone]

/-- Matching the pattern made of the names tries the ways in order. -/
theorem tryAll_parts (name : String) {others : List String} (h : others.length ≤ 1) :
    tryAll text.toArray widths (parts name.toList (others.map String.toList)) ⟨0, []⟩ some =
      (ways (heard (name :: others))).findSome? fun way =>
        tryAll text.toArray widths (branchOf (call way)) ⟨0, []⟩ some := by
  let names := heard (name :: others)
  have hnames : ∀ s, tryAll text.toArray widths (joined .initial (branchOf name.toList)
      ((others.map String.toList).map branchOf) ++ [literal .initial ' ']) s some =
      names.findSome? fun n =>
        tryAll text.toArray widths (branchOf (n.toList ++ [' '])) s some := by
    intro s
    rw [tryAll_append, List.map_map]
    refine (tryAll_names s _ name h).trans (congrArg (names.findSome? ·) (funext fun n => ?_))
    rw [branchOf, branchOf, List.map_append, tryAll_append]
    rfl
  -- the same names are tried after the at sign and, when none fits there, without it
  calc tryAll text.toArray widths (parts name.toList (others.map String.toList)) ⟨0, []⟩ some
      = ((literal .initial '@').attempt text.toArray widths ⟨0, []⟩ fun s =>
          names.findSome? fun n =>
            tryAll text.toArray widths (branchOf (n.toList ++ [' '])) s some).or
          (names.findSome? fun n =>
            tryAll text.toArray widths (branchOf (n.toList ++ [' '])) ⟨0, []⟩ some) := by
        rw [← hnames, ← funext hnames, ← attempt_optional]
        rfl
    _ = _ := by
        rw [attempt_literal_findSome?, ways, List.findSome?_append, List.findSome?_map,
          List.findSome?_map]
        rfl

end Fit

theorem after?_eq_drop {name text rest : List Char} (h : after? name text = some rest) :
    rest = text.drop name.length := by
  obtain ⟨w, hw, rfl⟩ := after?_eq_some_iff.mp h
  rw [hw.length_eq, List.drop_left]

/-- The remainder of a message is what follows the first way of addressing the robot that fits. -/
theorem remainder?_eq (name : String) {others : List String} (h : others.length ≤ 1)
    (message : String) : remainder? (name :: others) message =
      ((ways (heard (name :: others))).findSome? fun way =>
        after? (call way) message.toList).map String.ofList := by
  unfold remainder?
  rw [ofString_patternOf]
  simp only [Pattern.taken?, tryAll_parts name h, branchOf, tryAll_literals, List.drop_zero]
  generalize ways (heard (name :: others)) = ws
  induction ws with
  | nil => rfl
  | cons way ws ih =>
    rw [List.findSome?_cons, List.findSome?_cons]
    cases hrest : after? (call way) message.toList with
    | none => exact ih
    | some rest =>
      have hdrop := after?_eq_drop hrest
      simp [hdrop]

/-- The message is the address, with the name in any case, followed by `rest`. -/
def Calls (way : Bool × String) (message rest : String) : Prop :=
  ∃ w, Spells way.2.toList w ∧
    message.toList = (if way.1 then ['@'] else []) ++ w ++ ' ' :: rest.toList

theorem after?_sign_eq_some_iff {c : Char} (hc : c.toNat < 0x41) {name text rest : List Char} :
    after? (c :: name) text = some rest ↔ ∃ cs, text = c :: cs ∧ after? name cs = some rest := by
  cases text with
  | nil => simp [after?]
  | cons d ds =>
    rw [after?]
    split
    · rename_i hd
      obtain rfl := (Text.sameLetter_iff_eq hc).mp hd
      simp
    · rename_i hd
      have hne : d ≠ c := fun h => hd ((Text.sameLetter_iff_eq hc).mpr h)
      simp [hne]

theorem after?_name_eq_some_iff {name text rest : List Char} :
    after? (name ++ [' ']) text = some rest ↔ ∃ w, Spells name w ∧ text = w ++ ' ' :: rest := by
  have hspace : ∀ cs, after? [' '] cs = some rest ↔ cs = ' ' :: rest := by
    intro cs
    rw [after?_sign_eq_some_iff (by decide)]
    simp [after?]
  rw [after?_append, Option.bind_eq_some_iff]
  simp only [hspace, exists_eq_right]
  exact after?_eq_some_iff

theorem after?_call_eq_some_iff {way : Bool × String} {message : String} {rest : List Char} :
    after? (call way) message.toList = some rest ↔ Calls way message (String.ofList rest) := by
  obtain ⟨marked, name⟩ := way
  rw [Calls, String.toList_ofList]
  cases marked with
  | false => exact after?_name_eq_some_iff
  | true =>
    have hcall : call (true, name) = '@' :: (name.toList ++ [' ']) := rfl
    rw [hcall, after?_sign_eq_some_iff (by decide)]
    simp only [after?_name_eq_some_iff, if_true, List.cons_append, List.nil_append]
    constructor
    · rintro ⟨_, htext, w, hw, rfl⟩
      exact ⟨w, hw, htext⟩
    · rintro ⟨w, hw, htext⟩
      exact ⟨_, htext, w, hw, rfl⟩

theorem after?_call_eq_none_iff {way : Bool × String} {message : String} :
    after? (call way) message.toList = none ↔ ∀ rest, ¬ Calls way message rest := by
  rw [Option.eq_none_iff_forall_ne_some]
  constructor
  · intro hnone rest hcalls
    exact hnone rest.toList (after?_call_eq_some_iff.mpr (by rwa [String.ofList_toList]))
  · intro hnone rest hrest
    exact hnone _ (after?_call_eq_some_iff.mp hrest)

variable {names : List String} {message rest : String}

theorem remainder?_eq_none_iff (name : String) {others : List String} (h : others.length ≤ 1) :
    remainder? (name :: others) message = none ↔
      ∀ way ∈ ways (heard (name :: others)), ∀ rest, ¬ Calls way message rest := by
  rw [remainder?_eq name h, Option.map_eq_none_iff, List.findSome?_eq_none_iff]
  exact forall₂_congr fun way _ => after?_call_eq_none_iff

/-- The first way that fits is taken. -/
theorem remainder?_eq_some (name : String) {others : List String} (h : others.length ≤ 1)
    {before after : List (Bool × String)} {way : Bool × String}
    (hways : ways (heard (name :: others)) = before ++ way :: after)
    (hbefore : ∀ way' ∈ before, ∀ rest, ¬ Calls way' message rest)
    (hcalls : Calls way message rest) : remainder? (name :: others) message = some rest := by
  have hnone : before.findSome? (fun way => after? (call way) message.toList) = none := by
    rw [List.findSome?_eq_none_iff]
    exact fun way' hway' => after?_call_eq_none_iff.mpr (hbefore way' hway')
  have hsome : after? (call way) message.toList = some rest.toList :=
    after?_call_eq_some_iff.mpr (by rwa [String.ofList_toList])
  rw [remainder?_eq name h, hways, List.findSome?_append, hnone, Option.none_or,
    List.findSome?_cons, hsome, Option.map_some, String.ofList_toList]

end Address

namespace Responder

open Address

variable {r : Responder} {message rest : String}

theorem names_eq (r : Responder) :
    ∃ others : List String, others.length ≤ 1 ∧ r.names = r.robotName :: others :=
  ⟨r.robotAlias.toList.filter (· ≠ ""),
    Nat.le_trans (List.length_filter_le _ _) (by cases r.robotAlias <;> simp), rfl⟩

theorem suggestion_kind (r : Responder) (found : List String) :
    (r.suggestion found).kind = .catchAllEmpty ↔ found = [] := by
  cases found <;> simp [suggestion]

theorem catchAll_of_remainder? (h : remainder? r.names message = some rest) :
    r.catchAll message = (r.index.search rest).map fun found => some (r.suggestion found) := by
  unfold catchAll
  rw [h]
  change (r.index.search rest >>= fun found => pure (some (r.suggestion found))) = _
  cases r.index.search rest <;> rfl

theorem catchAll_eq_none_iff :
    r.catchAll message = .ok none ↔ remainder? r.names message = none := by
  cases h : remainder? r.names message with
  | none =>
    unfold catchAll
    rw [h]
    simp
  | some rest =>
    rw [catchAll_of_remainder? h]
    cases r.index.search rest <;> simp [Except.map]

/-- A message that does not address the robot gets no answer. Otherwise the first way that fits is
stripped and the answer follows from a search for the rest: it lists no command iff the search finds
none, and fails iff the search fails. -/
theorem catchAll_called (r : Responder) (message : String) :
    (r.catchAll message = .ok none ↔
      ∀ way ∈ ways (heard r.names), ∀ rest, ¬ Calls way message rest) ∧
    (∀ before way after rest, ways (heard r.names) = before ++ way :: after →
      (∀ way' ∈ before, ∀ rest', ¬ Calls way' message rest') → Calls way message rest →
      r.catchAll message = (r.index.search rest).map fun found => some (r.suggestion found)) ∧
    ∀ found, (r.suggestion found).kind = .catchAllEmpty ↔ found = [] := by
  obtain ⟨others, hothers, hnames⟩ := names_eq r
  refine ⟨?_, ?_, suggestion_kind r⟩
  · rw [catchAll_eq_none_iff, hnames, remainder?_eq_none_iff r.robotName hothers]
  · intro before way after rest hways hbefore hcalls
    rw [hnames] at hways
    refine catchAll_of_remainder? ?_
    rw [hnames]
    exact remainder?_eq_some r.robotName hothers hways hbefore hcalls

def withNames (name otherName : String) : Responder :=
  let corpus : Corpus := ⟨[("ping", { commands := ["hubot ping"] })], by simp⟩
  { corpus, index := .ofCorpus 0 corpus none, robotName := name, robotAlias := some otherName
    limit := 5 }

/-- The name is tried before the longer alias. -/
theorem catchAll_called_shorter :
    Calls (true, "hal+") "@HAL+ 9000 ping" "9000 ping" ∧
      ∃ reply, (withNames "hal+" "hal+ 9000").catchAll "@HAL+ 9000 ping" = .ok (some reply) ∧
        reply.commands = ["hal+ ping"] := by
  have hways : ways (heard (withNames "hal+" "hal+ 9000").names) =
      [] ++ (true, "hal+") :: [(true, "hal+ 9000"), (false, "hal+"), (false, "hal+ 9000")] := by
    rw [heard_eq_self (by decide +kernel)]
    rfl
  have hcalls : Calls (true, "hal+") "@HAL+ 9000 ping" "9000 ping" :=
    after?_call_eq_some_iff.mp (by decide +kernel)
  have hfound : (withNames "hal+" "hal+ 9000").index.search "9000 ping" = .ok ["hubot ping"] := by
    decide +kernel
  obtain ⟨-, hreply, -⟩ := catchAll_called (withNames "hal+" "hal+ 9000") "@HAL+ 9000 ping"
  have hanswer := hreply [] _ _ "9000 ping" hways (fun way' hway' => by cases hway') hcalls
  rw [hfound] at hanswer
  exact ⟨hcalls, _, hanswer, by decide +kernel⟩

/-- The name is one uppercase letter above U+FFFF and the alias one other character, so the name is
never matched. -/
theorem not_catchAll_called_capital :
    let r := withNames "𐐀" "x"
    Calls (false, r.robotName) "𐐀 hi" "hi" ∧ r.catchAll "𐐀 hi" = .ok none := by
  have hnone : remainder? (withNames "𐐀" "x").names "𐐀 hi" = none := by decide +kernel
  exact ⟨after?_call_eq_some_iff.mp (by decide +kernel), catchAll_eq_none_iff.mpr hnone⟩

end Responder

end ScriptHelp
