import ScriptHelp.Pattern.Choice
import ScriptHelp.Pattern.Compile

namespace ScriptHelp.Pattern

def repetitionLimit : Nat := 4294967295

def groupLimit : Nat := 1073741823

structure Change where
  on : List Char
  off : List Char

def optionLetters : List Char := ['i', 'L', 'm', 's', 'x', 'a', 't', 'u']

/-- The flags `a` and `u` exclude each other, and the one set last wins. -/
def Options.change (o : Options) (c : Change) : Options :=
  let flag := fun (letter : Char) (old : Bool) =>
    (old || c.on.contains letter) && !c.off.contains letter
  ⟨flag 'i' o.ignoreCase, flag 'm' o.multiline, flag 's' o.dotAll, flag 'x' o.verbose,
    if c.on.contains 'u' then false else o.ascii || c.on.contains 'a'⟩

structure Count where
  min : Nat
  max : Option Nat

namespace Read

/-- Checks the letter of a flag. `L` is not allowed in a text pattern, and `a` and `u` exclude each
other. -/
def checkOn (on : List Char) (c : Char) : Read Unit := do
  if c = 'L' then invalid
  if (c = 'a' ∧ 'u' ∈ on) ∨ (c = 'u' ∧ 'a' ∈ on) then invalid

def optionsOff : (fuel : Nat) → (on off : List Char) → (c : Char) → Read Change
  | 0, _, _, _ => invalid
  | fuel + 1, on, off, c => do
    if c = 'a' ∨ c = 'L' ∨ c = 'u' then invalid
    let off := off ++ [c]
    let t ← need
    if t.isPlain ':' then
      if off.contains 't' || on.any off.contains then invalid
      return ⟨on, off⟩
    if t.escaped || !optionLetters.contains t.char then invalid
    optionsOff fuel on off t.char

def optionsAfterHyphen (on : List Char) : Read Change := do
  if on.contains 't' then invalid
  let t ← need
  if t.escaped || !optionLetters.contains t.char then invalid
  optionsOff ((← get).tokens.length + 1) on [] t.char

/-- The flags of a group, or of the whole pattern when no group follows. -/
def optionsOn : (fuel : Nat) → (on : List Char) → (c : Char) → Read (Bool × Change)
  | 0, _, _ => invalid
  | fuel + 1, on, c => do
    checkOn on c
    let on := on ++ [c]
    let t ← need
    if t.isPlain ')' then return (true, ⟨on, []⟩)
    if t.isPlain ':' then
      if on.contains 't' then invalid
      return (false, ⟨on, []⟩)
    if t.isPlain '-' then return (false, ← optionsAfterHyphen on)
    if t.escaped || !optionLetters.contains t.char then invalid
    optionsOn fuel on t.char

def options (c : Char) : Read (Bool × Change) := do
  if c = '-' then return (false, ← optionsAfterHyphen [])
  optionsOn ((← get).tokens.length + 1) [] c

def changeOptions (c : Change) : Read Options := do
  modify fun r =>
    { r with
      options :=
        { r.options.change ⟨c.on.filter (· ≠ 'u'), c.off⟩ with
          ascii := r.options.ascii || c.on.contains 'a' }
      unicode := r.unicode || c.on.contains 'u'
      noRepetition := r.noRepetition || c.on.contains 't' }
  return (← get).options

def countOf (digits : List Char) : Read Nat := do
  if digits.length > Number.maxDigits then throw (.numberTooLong digits.length)
  let n := numberIn 10 digits
  if n ≥ repetitionLimit then throw .repetitionTooLarge
  return n

/-- The count after an opening brace. Braces without a count are literal. -/
def bracedCount : Read (Option Count) := do
  let ts := (← get).tokens
  if (← peek).any (·.isPlain '\x7d') then return none
  let lo ← atMost isDigit ts.length
  let hi ← if ← accept ',' then atMost isDigit ts.length else pure lo
  if !(← accept '\x7d') then
    goBack ts
    return none
  let min ← if lo.isEmpty then pure 0 else countOf lo
  let max ← if hi.isEmpty then pure none else some <$> countOf hi
  if max.any (· < min) then invalid
  return some ⟨min, max⟩

def count (c : Char) : Read (Option Count) :=
  match c with
  | '?' => return some ⟨0, some 1⟩
  | '*' => return some ⟨0, none⟩
  | '+' => return some ⟨1, none⟩
  | _ => bracedCount

def greed : Read Greed := do
  if ← accept '?' then return .reluctant
  if ← accept '+' then return .possessive
  return .greedy

/-- Repeats the node read last. Anchors and repetitions cannot be repeated. -/
def repeatLast (done : List Node) (c : Count) : Read (List Node) := do
  match done with
  | [] | .anchor _ :: _ | .repetition .. :: _ => invalid
  | n :: ns => return .repetition (← greed) c.min c.max [n] :: ns

def escapedNode (o : Options) (c : Char) : Read Node := do
  match ← escape o.ascii c with
  | .code n => return .char (.code o.caseRule false n)
  | .category k negated => return .char (.set o.caseRule o.ascii false [.category k negated])
  | .anchor a => return .anchor a
  | .group g => return .backreference o.caseRule g

def needClose : Read Unit := do if !(← accept ')') then invalid

def skipLine : (fuel : Nat) → Read Unit
  | 0 => return
  | fuel + 1 => do
    match ← next with
    | some t => if t.isPlain '\n' then return else skipLine fuel
    | none => return

def skipComment : (fuel : Nat) → Read Unit
  | 0 => invalid
  | fuel + 1 => do
    let t ← need
    if t.isPlain ')' then return else skipComment fuel

def groupName (stop : Char) : Read String := do
  let cs ← textUntil stop
  if Text.isIdentifier cs then return String.ofList cs else invalid

def condition : Read Nat := do
  let cs ← textUntil ')'
  if Text.isIdentifier cs then groupNamed (String.ofList cs)
  else match Number.readInteger (String.ofList cs) with
    | .error _ => invalid
    | .ok n =>
      if n ≤ 0 ∨ n ≥ groupLimit then invalid
      modify fun r => { r with greatestCondition := max r.greatestCondition n.toNat }
      return n.toNat

def closedGroupNamed (stop : Char) : Read Nat := do
  let g ← groupNamed (← groupName stop)
  if !(← isClosed g) then invalid
  checkBehind g
  return g

inductive Opening
  | body (capture : Option Nat)
  | scoped (o : Options)
  | atomic
  | look (behind negated : Bool)
  | conditional (group : Nat)
  | whole (n : Node)
  | nothing
  | wholePattern (c : Change)

def lookBehind : Read Opening := do
  let t ← need
  if t.isPlain '=' then return .look true false
  if t.isPlain '!' then return .look true true
  invalid

def namedOpening (o : Options) : Read Opening := do
  if ← accept '<' then
    let name ← groupName '>'
    return .body (some (← openGroup (some name)))
  if ← accept '=' then
    return .whole (.backreference o.caseRule (← closedGroupNamed ')'))
  invalid

def opening (o : Options) : Read Opening := do
  if !(← accept '?') then return .body (some (← openGroup none))
  let t ← need
  if t.escaped then invalid
  match t.char with
  | 'P' => namedOpening o
  | ':' => return .body none
  | '#' => do
    skipComment ((← get).tokens.length + 1)
    return .nothing
  | '=' => return .look false false
  | '!' => return .look false true
  | '<' => lookBehind
  | '(' => do
    let g ← condition
    checkBehind g
    return .conditional g
  | '>' => return .atomic
  | c =>
    if c = '-' ∨ optionLetters.contains c then
      let (wholePattern, change) ← options c
      if wholePattern then return .wholePattern change
      return .scoped (o.change change)
    else invalid

def isVerboseSpace (t : Token) : Bool :=
  !t.escaped && (t.char = ' ' || (0x09 ≤ t.char.toNat && t.char.toNat ≤ 0x0D))

mutual

/-- A branch and its alternatives. At the top level the first branch may set the flags of the
others. -/
def choice (fuel : Nat) (o : Options) (top first : Bool) :
    Read (List Node × List (List Node)) :=
  match fuel with
  | 0 => invalid
  | fuel + 1 => do
    let branch ← sequence fuel o (top && first) []
    if ← accept '|' then
      let r ← get
      let o := if top then r.options else o
      let (next, others) ← choice fuel o top false
      return (branch, next :: others)
    return (branch, [])

/-- A sequence, with `done` the nodes read already in reverse. Global flags may only stand before
the first node. -/
def sequence (fuel : Nat) (o : Options) (mayChange : Bool) (done : List Node) :
    Read (List Node) :=
  match fuel with
  | 0 => invalid
  | fuel + 1 => do
    match ← peek with
    | none => return spliced done.reverse
    | some t =>
      if t.isPlain '|' || t.isPlain ')' then return spliced done.reverse
      advance
      if o.verbose && isVerboseSpace t then sequence fuel o mayChange done
      else if o.verbose && t.isPlain '#' then do
        skipLine ((← get).tokens.length + 1)
        sequence fuel o mayChange done
      else if t.escaped then
        sequence fuel o mayChange ((← escapedNode o t.char) :: done)
      else match t.char with
        | '[' => sequence fuel o mayChange ((← set o) :: done)
        | '.' =>
          let test := if o.dotAll then CharTest.any else .notLineFeed
          sequence fuel o mayChange (.char test :: done)
        | '^' =>
          let anchor := if o.multiline then Anchor.lineStart else .textStart
          sequence fuel o mayChange (.anchor anchor :: done)
        | '$' =>
          let anchor := if o.multiline then Anchor.lineEnd else .lastLineEnd
          sequence fuel o mayChange (.anchor anchor :: done)
        | '(' =>
          match ← opening o with
          | .nothing => sequence fuel o mayChange done
          | .wholePattern change =>
            if !mayChange || !done.isEmpty then invalid
            let o ← changeOptions change
            sequence fuel o mayChange done
          | .whole n => sequence fuel o mayChange (n :: done)
          | .body capture => do
            let body ← nested 2 (group fuel o)
            needClose
            if let some g := capture then closeGroup g body
            sequence fuel o mayChange (.group capture body :: done)
          | .scoped inner => do
            let body ← nested 2 (group fuel inner)
            needClose
            -- not a plain group, for it stays one part
            sequence fuel o mayChange (.choice [body] :: done)
          | .atomic => do
            let body ← nested 2 (group fuel o)
            needClose
            sequence fuel o mayChange (.atomic body :: done)
          | .look isBehind negated => do
            let inner := nested 2 (group fuel o)
            let body ← if isBehind then behind inner else inner
            needClose
            sequence fuel o mayChange (.look isBehind negated body :: done)
          | .conditional g => do
            let yes ← nested 1 (sequence fuel o false [])
            let no ← if ← accept '|' then nested 1 (sequence fuel o false []) else pure []
            needClose
            sequence fuel o mayChange (.conditional g yes no :: done)
        | c =>
          if c = '*' ∨ c = '+' ∨ c = '?' ∨ c = '\x7b' then
            match ← count c with
            | none => sequence fuel o mayChange (.char (.code o.caseRule false c.toNat) :: done)
            | some n => sequence fuel o mayChange (← repeatLast done n)
          else sequence fuel o mayChange (.char (.code o.caseRule false c.toNat) :: done)

def group (fuel : Nat) (o : Options) : Read (List Node) :=
  match fuel with
  | 0 => invalid
  | fuel + 1 => do
    let (branch, others) ← choice fuel o false false
    return joined o branch others

end

/-- A whole pattern. Faults of the text are reported before those of the tree. -/
def whole : Read (List Node) := do
  checkEnd
  let fuel := 4 * (← get).tokens.length + 8
  let (branch, others) ← choice fuel (← get).options true true
  let r ← get
  if r.unicode && r.options.ascii then throw .clashingOptions
  if !r.tokens.isEmpty then invalid
  if r.greatestCondition > r.widths.length then invalid
  let body := joined r.options branch others
  compile r.widths r.noRepetition r.room body
  return body

end Read

end ScriptHelp.Pattern
