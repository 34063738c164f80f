namespace ScriptHelp.Text

abbrev Ranges := List (Nat × Nat)

/-- Since the ranges ascend, the first one that does not end before the character decides. -/
def Ranges.has (r : Ranges) (c : Char) : Bool :=
  match r.find? fun p => c.toNat ≤ p.2 with
  | some p => decide (p.1 ≤ c.toNat)
  | none => false

theorem Ranges.exists_of_has {r : Ranges} {c : Char} (h : r.has c = true) :
    ∃ p ∈ r, p.1 ≤ c.toNat ∧ c.toNat ≤ p.2 := by
  unfold Ranges.has at h
  split at h
  · rename_i p hp
    exact ⟨p, List.mem_of_find?_eq_some hp, of_decide_eq_true h,
      by simpa using List.find?_some hp⟩
  · cases h

/-- The pieces between the elements that satisfy `p`; without one there is a single piece. -/
def pieces {α : Type} (p : α → Bool) : List α → List (List α)
  | [] => [[]]
  | c :: cs =>
    if p c then [] :: pieces p cs
    else match pieces p cs with
      | [] => [[c]]
      | l :: ls => (c :: l) :: ls

def lineList (cs : List Char) : List (List Char) := pieces (· = '\n') cs

/-- Replaces CRLF and CR by LF. -/
def unifyLineEnds : List Char → List Char
  | '\r' :: '\n' :: cs => '\n' :: unifyLineEnds cs
  | '\r' :: cs => '\n' :: unifyLineEnds cs
  | c :: cs => c :: unifyLineEnds cs
  | [] => []

def isPart (cs : List Char) : List Char → Bool
  | [] => cs.isEmpty
  | d :: ds => cs.isPrefixOf (d :: ds) || isPart cs ds

def replaceFirst (old new : List Char) : List Char → List Char
  | [] => if old.isEmpty then new else []
  | c :: cs =>
    if old.isPrefixOf (c :: cs) then new ++ (c :: cs).drop old.length
    else c :: replaceFirst old new cs

end ScriptHelp.Text
