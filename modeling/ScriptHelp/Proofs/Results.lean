namespace ScriptHelp

variable {ε α β : Type} {x : Except ε α} {b : β} {f : ε}

theorem map_eq_ok {g : α → β} (h : x.map g = .ok b) : ∃ a, x = .ok a ∧ g a = b := by
  cases x with
  | error e => simp [Except.map] at h
  | ok a => exact ⟨a, rfl, Except.ok.inj h⟩

theorem exists_of_bind_eq_ok {k : α → Except ε β} (h : (x >>= k) = .ok b) :
    ∃ a, x = .ok a ∧ k a = .ok b := by
  cases x with
  | error e => exact absurd h (by simp [bind, Except.bind])
  | ok a => exact ⟨a, rfl, h⟩

theorem of_bind_eq_error {k : α → Except ε β} (h : (x >>= k) = .error f) :
    x = .error f ∨ ∃ a, x = .ok a ∧ k a = .error f := by
  cases x with
  | error e => exact .inl (congrArg Except.error (Except.error.inj h))
  | ok a => exact .inr ⟨a, rfl, h⟩

theorem bind_eq_error_iff {k : α → Except ε β} (hk : ∀ a g, k a ≠ .error g) :
    (x >>= k) = .error f ↔ x = .error f := by
  cases x with
  | error g => simp [bind, Except.bind]
  | ok a => simpa [bind, Except.bind] using hk a f

end ScriptHelp
