import ScriptHelp.Proofs.CrowdHistory

namespace ScriptHelp

namespace Crowd

variable {α : Type}

/-- The load was started before the reset, and its result is given to a caller who arrived after it.
-/
def ComesBack (outcome : Nat → Except String α) (before : List Move) (n : Nat) : Prop :=
  n < (after outcome before).service.loads ∧
    ∃ later i a, (after outcome before).callers.length ≤ i ∧
      (after outcome (before ++ .reset :: later)).At i .current (.served (.ok ⟨n, a⟩))

/-- Only results of allowed loads are current, in progress, or given to callers beyond the first
ones. All loads not yet started are allowed. -/
structure Yields (outcome : Nat → Except String α) (allowed : Nat → Prop) (first : Nat)
    (c : Crowd α) : Prop where
  next : ∀ {n}, c.service.loads ≤ n → allowed n
  running : ∀ {i n}, c.Inside i n → allowed n
  current : ∀ {x}, c.service.current = some x → allowed x.load ∧ outcome x.load = .ok x.value
  told : ∀ {i w x}, first ≤ i → c.At i w (.served (.ok x)) →
    allowed x.load ∧ outcome x.load = .ok x.value

variable {outcome : Nat → Except String α} {ms before later : List Move} {m : Move} {c : Crowd α}
  {i n : Nat} {w : Wish} {a : α} {x : Numbered α} {allowed : Nat → Prop} {first : Nat}

/-- Only a successful load replaces the current result. -/
theorem current_of_move (h : (c.move outcome m).service.current = some x) :
    c.service.current = some x ∨ (∃ i, c.Inside i x.load) ∧ outcome x.load = .ok x.value := by
  cases m with
  | call w => exact .inl h
  | reset => exact absurd h (by simp [move, reset, Service.reset])
  | advance i =>
    have hstep := advance_cases outcome c i
    change (c.advance outcome i).service.current = some x at h
    generalize c.advance outcome i = d at hstep h
    cases hstep with
    | @finish w lock n hi =>
      change (c.service.finish n (outcome n)).current = some x at h
      cases hn : outcome n with
      | error e =>
        rw [hn] at h
        exact .inl h
      | ok a =>
        rw [hn] at h
        obtain rfl := Option.some.inj h
        exact .inr ⟨⟨i, w, lock, hi⟩, hn⟩
    | _ => exact .inl h

theorem Yields.move (h : Yields outcome allowed first c) (m : Move) :
    Yields outcome allowed first (c.move outcome m) where
  next hn := h.next (loads_le_move.trans hn)
  running := by
    rintro i n ⟨w, lock, hi⟩
    cases reaches_of_at hi with
    | stayed hi => exact h.running ⟨w, lock, hi⟩
    | entered _ _ _ => exact h.next (Nat.le_refl _)
  current hx := by
    obtain hx | ⟨⟨i, hi⟩, ha⟩ := current_of_move hx
    · exact h.current hx
    · exact ⟨h.running hi, ha⟩
  told := by
    intro i w x hfirst hi
    generalize hs : Stage.served (.ok x) = s at hi
    cases reaches_of_at hi with
    | stayed hi => exact h.told hfirst (hs ▸ hi)
    | arrived _ => simp at hs
    | queued _ _ => simp at hs
    | took _ hx =>
      simp only [Stage.served.injEq, Except.ok.injEq] at hs
      exact h.current (hs ▸ hx)
    | entered _ _ _ => simp at hs
    | @left lock n hloading =>
      cases hn : outcome n with
      | error e => simp [hn, Except.map] at hs
      | ok a =>
        simp only [hn, Except.map, Stage.served.injEq, Except.ok.injEq] at hs
        subst hs
        exact ⟨h.running ⟨w, lock, hloading⟩, hn⟩

theorem Yields.run (h : Yields outcome allowed first c) (ms : List Move) :
    Yields outcome allowed first (run outcome c ms) := by
  induction ms generalizing c with
  | nil => exact h
  | cons m ms ih => exact ih (h.move m)

theorem yields_reset (c : Crowd α) :
    Yields outcome (fun n => c.service.loads ≤ n ∨ ∃ i, c.Inside i n) c.callers.length c.reset where
  next := .inl
  running hi := .inr ⟨_, hi⟩
  current hx := by simp [reset, Service.reset] at hx
  told := by
    intro i w x hfirst hi
    have hnone : c.callers[i]? = none := List.getElem?_eq_none hfirst
    exact absurd (hnone.symm.trans hi) (by simp)

theorem inside_lt_loads (h : (after outcome ms).Inside i n) :
    n < (after outcome ms).service.loads := by
  induction ms using List.reverseRecOn with
  | nil => simp [Inside, At, after, Crowd.run, ofService] at h
  | append_singleton ms m ih =>
    rw [after_concat] at h ⊢
    obtain ⟨w, lock, h⟩ := h
    cases reaches_of_at h with
    | stayed h => exact Nat.lt_of_lt_of_le (ih ⟨w, lock, h⟩) loads_le_move
    | entered hw hl hr =>
      change _ < ((after outcome ms).advance outcome i).service.loads
      rw [advance_waiting hw hl, hr]
      exact Nat.lt_succ_self _

/-- A new caller takes the current result. -/
theorem served_newcomer (hx : c.service.current = some x) :
    (Crowd.run outcome c [.call .current, .advance c.callers.length]).At c.callers.length .current
      (.served (.ok x)) := by
  let d := c.move outcome (.call .current)
  have hcame : d.At c.callers.length .current .arriving := at_of_call.mpr (.inr ⟨rfl, rfl, rfl⟩)
  have hready : d.ready? .current = some x := hx
  have hstep : d.advance outcome c.callers.length = d.serve c.callers.length (.ok x) := by
    unfold At at hcame
    simp only [advance, hcame, hready]
  change (d.advance outcome c.callers.length).At _ _ _
  rw [hstep, at_of_setStage rfl hcame, if_pos rfl]
  exact ⟨rfl, rfl⟩

/-- The result of an older load comes back after a reset iff the load was running at the reset and
succeeds. -/
theorem comesBack_iff (outcome : Nat → Except String α) (before : List Move) (n : Nat) :
    ComesBack outcome before n ↔
      (∃ i, (after outcome before).Inside i n) ∧ ∃ a, outcome n = .ok a := by
  let c := after outcome before
  constructor
  · rintro ⟨hold, later, i, a, hi, htold⟩
    have hreset : Yields outcome _ c.callers.length c.reset := yields_reset c
    rw [after_append] at htold
    -- a newcomer gets the result of a load that ran at the reset or was started since
    obtain ⟨hn | hn, ha⟩ := (hreset.run later).told hi htold
    · exact absurd hold (Nat.not_lt.mpr hn)
    · exact ⟨hn, a, ha⟩
  · rintro ⟨⟨i, hi⟩, a, ha⟩
    refine ⟨inside_lt_loads hi, [.advance i, .call .current, .advance c.callers.length],
      c.callers.length, a, Nat.le_refl _, ?_⟩
    obtain ⟨w, lock, hi⟩ := hi
    -- the load ends after the reset and puts its result in the place that the reset had cleared
    have hloading : c.reset.At i w (.loading lock n) := hi
    have hended : c.reset.advance outcome i = c.reset.finishLoad i lock n (.ok a) :=
      ha ▸ advance_loading hloading
    have hlength : (c.reset.finishLoad i lock n (.ok a)).callers.length = c.callers.length :=
      List.length_modify _ _ _
    rw [after_append]
    change (Crowd.run outcome (c.reset.advance outcome i) _).At _ _ _
    rw [hended, ← hlength]
    exact served_newcomer rfl

/-- A reload runs during the reset; a caller who arrives after it has ended gets its result. -/
theorem comesBack_reload :
    ComesBack (fun _ => .ok "help") [.call .fresh, .advance 0, .advance 0] 0 :=
  ⟨by decide, [.advance 0, .call .current, .advance 1], 1, "help", by decide, rfl⟩

end Crowd

end ScriptHelp
