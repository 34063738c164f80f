import ScriptHelp.Service.Basic

namespace ScriptHelp

namespace Wish

def due (present : Bool) : Wish → Nat
  | .fresh => 1
  | .current => if present then 0 else 1

def dueAll (works : Bool) : Bool → List Wish → Nat
  | _, [] => 0
  | present, w :: ws => w.due present + dueAll works (present || works) ws

end Wish

namespace Service

variable {α : Type}

def value? (s : Service α) : Option α := s.current.map (·.value)

/-- The service after serving all wishes in turn, every load with the same outcome. -/
def serveAll (r : Except String α) (door : Option (Numbered α)) (s : Service α) (ws : List Wish) :
    Service α :=
  ws.foldl (fun s w => (s.serveFrom (fun _ => r) door w).2) s

variable {r : Except String α} {a : α} {e : String} {s t : Service α} {w : Wish} {ws : List Wish}
  {door out : Option (Numbered α)}

theorem serveAll_cons : s.serveAll r door (w :: ws) =
    ((s.serveFrom (fun _ => r) door w).2).serveAll r door ws := rfl

theorem loadNow_loads : (s.loadNow fun _ => r).2.loads = s.loads + 1 := by
  cases r <;> rfl

theorem loadNow_isSome :
    (s.loadNow fun _ => r).2.current.isSome = (s.current.isSome || r.isOk) := by
  cases r with
  | ok a => exact (Bool.or_true _).symm
  | error e => exact (Bool.or_false _).symm

/-- A caller who finds a result on arrival or in its turn starts no load, and every other one starts
one. -/
theorem serveFrom_cases (r : Except String α) (w : Wish)
    (hd : door.isSome = true → s.current.isSome = true) :
    (s.current.isSome = true ∧ w.due s.current.isSome = 0 ∧
        (s.serveFrom (fun _ => r) door w).2 = s) ∨
      (w.due s.current.isSome = 1 ∧
        (s.serveFrom (fun _ => r) door w).2 = (s.loadNow fun _ => r).2) := by
  cases w with
  | fresh => exact .inr ⟨rfl, rfl⟩
  | current =>
    cases hs : s.current with
    | some x =>
      refine .inl ⟨rfl, rfl, ?_⟩
      cases door with
      | some y => rfl
      | none =>
        change (s.serve (fun _ => r) .current).2 = s
        simp only [serve, hs]
    | none =>
      refine .inr ⟨rfl, ?_⟩
      cases door with
      | some y => simp [hs] at hd
      | none =>
        change (s.serve (fun _ => r) .current).2 = (s.loadNow fun _ => r).2
        simp only [serve, hs]

theorem serveFrom_isSome (hd : door.isSome = true → s.current.isSome = true) :
    (s.serveFrom (fun _ => r) door w).2.current.isSome = (s.current.isSome || r.isOk) := by
  obtain ⟨hs, -, h⟩ | ⟨-, h⟩ := serveFrom_cases r w hd
  · rw [h, hs, Bool.true_or]
  · rw [h, loadNow_isSome]

theorem serveFrom_loads (hd : door.isSome = true → s.current.isSome = true) :
    (s.serveFrom (fun _ => r) door w).2.loads = s.loads + w.due s.current.isSome := by
  obtain ⟨-, hdue, h⟩ | ⟨hdue, h⟩ := serveFrom_cases r w hd
  · rw [h, hdue, Nat.add_zero]
  · rw [h, hdue, loadNow_loads]

theorem door_serveFrom (hd : door.isSome = true → s.current.isSome = true) :
    door.isSome = true → (s.serveFrom (fun _ => r) door w).2.current.isSome = true := by
  intro hdoor
  rw [serveFrom_isSome hd, hd hdoor, Bool.true_or]

theorem serveAll_loads (hd : door.isSome = true → s.current.isSome = true) :
    (s.serveAll r door ws).loads = s.loads + Wish.dueAll r.isOk s.current.isSome ws := by
  induction ws generalizing s with
  | nil => rfl
  | cons w ws ih =>
    rw [serveAll_cons, ih (door_serveFrom hd), serveFrom_loads hd, serveFrom_isSome hd,
      Wish.dueAll, Nat.add_assoc]

theorem serveAll_of_due_eq_zero (hd : door.isSome = true → s.current.isSome = true)
    (hdue : Wish.dueAll r.isOk s.current.isSome ws = 0) : s.serveAll r door ws = s := by
  induction ws with
  | nil => rfl
  | cons w ws ih =>
    rw [Wish.dueAll, Nat.add_eq_zero_iff] at hdue
    obtain ⟨hs, -, h⟩ | ⟨hone, -⟩ := serveFrom_cases r w hd
    · rw [hs, Bool.true_or, ← hs] at hdue
      rw [serveAll_cons, h]
      exact ih hdue.2
    · omega

/-- Failing loads leave the current result as it is. -/
theorem serveAll_error (hd : door.isSome = true → s.current.isSome = true) :
    (s.serveAll (.error e) door ws).current = s.current := by
  induction ws generalizing s with
  | nil => rfl
  | cons w ws ih =>
    rw [serveAll_cons, ih (door_serveFrom hd)]
    obtain ⟨-, -, h⟩ | ⟨-, h⟩ := serveFrom_cases (.error e) w hd
    · rw [h]
    · rw [h]
      rfl

theorem serveAll_ok_of_value? (hd : door.isSome = true → s.current.isSome = true)
    (hs : s.value? = some a) : (s.serveAll (.ok a) door ws).value? = some a := by
  induction ws generalizing s with
  | nil => exact hs
  | cons w ws ih =>
    rw [serveAll_cons]
    refine ih (door_serveFrom hd) ?_
    obtain ⟨-, -, h⟩ | ⟨-, h⟩ := serveFrom_cases (.ok a) w hd
    · rw [h, hs]
    · rw [h]
      rfl

/-- Of successful loads, one is enough for all callers who take the current result. -/
theorem serveAll_ok (hd : door.isSome = true → s.current.isSome = true)
    (hdue : 0 < Wish.dueAll true s.current.isSome ws) :
    (s.serveAll (.ok a) door ws).value? = some a := by
  induction ws with
  | nil => simp [Wish.dueAll] at hdue
  | cons w ws ih =>
    rw [serveAll_cons]
    obtain ⟨hs, hzero, h⟩ | ⟨-, h⟩ := serveFrom_cases (.ok a) w hd
    · rw [Wish.dueAll, hzero, Nat.zero_add, Bool.or_true] at hdue
      rw [h]
      exact ih (hs.symm ▸ hdue)
    · have hd' := door_serveFrom (r := .ok a) (w := w) hd
      rw [h] at hd' ⊢
      exact serveAll_ok_of_value? hd' rfl

theorem serveFrom_of_none (h : s.current = none) : (s.serveFrom (fun _ => r) none w).1 = r := by
  cases w with
  | fresh => rfl
  | current =>
    change (s.serve (fun _ => r) .current).1 = r
    unfold serve
    rw [h]
    rfl

theorem loadNow_alike (hv : s.value? = t.value?) :
    (s.loadNow fun _ => r).1 = (t.loadNow fun _ => r).1 ∧
      (s.loadNow fun _ => r).2.value? = (t.loadNow fun _ => r).2.value? := by
  refine ⟨rfl, ?_⟩
  cases r with
  | ok a => rfl
  | error e => exact hv

/-- Load numbers do not affect what callers get. -/
theorem serveFrom_alike (hv : s.value? = t.value?)
    (hdoor : door.map (·.value) = out.map (·.value)) :
    (s.serveFrom (fun _ => r) door w).1 = (t.serveFrom (fun _ => r) out w).1 ∧
      (s.serveFrom (fun _ => r) door w).2.value? = (t.serveFrom (fun _ => r) out w).2.value? := by
  cases w with
  | fresh => exact loadNow_alike hv
  | current =>
    cases door with
    | some x =>
      cases out with
      | none => simp at hdoor
      | some y => exact ⟨congrArg Except.ok (Option.some.inj hdoor), hv⟩
    | none =>
      cases out with
      | some y => simp at hdoor
      | none =>
        change (s.serve (fun _ => r) .current).1 = (t.serve (fun _ => r) .current).1 ∧ _
        unfold serveFrom serve
        cases hs : s.current with
        | some x =>
          cases ht : t.current with
          | none => simp [value?, hs, ht] at hv
          | some y =>
            have hxy : x.value = y.value := by simpa [value?, hs, ht] using hv
            exact ⟨congrArg Except.ok hxy, hv⟩
        | none =>
          cases ht : t.current with
          | some y => simp [value?, hs, ht] at hv
          | none => exact loadNow_alike hv

end Service

end ScriptHelp
