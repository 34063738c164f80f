import Mathlib.Tactic.SplitIfs
import ScriptHelp.Service.Crowd

namespace ScriptHelp

namespace Crowd

variable {α : Type}

def At (c : Crowd α) (i : Nat) (w : Wish) (s : Stage α) : Prop := c.callers[i]? = some ⟨w, s⟩

/-- Everything a caller's step can do, with its guards. -/
inductive Advances (outcome : Nat → Except String α) (c : Crowd α) (i : Nat) : Crowd α → Prop
  | absent (h : c.callers[i]? = none) : Advances outcome c i c
  | done {w r} (h : c.At i w (.served r)) : Advances outcome c i c
  | blocked {w lock} (h : c.At i w (.waiting lock)) (hl : c.isTaken lock = true) :
    Advances outcome c i c
  | door {x} (h : c.At i .current .arriving) (hx : c.service.current = some x) :
    Advances outcome c i (c.serve i (.ok x))
  | queue {w} (h : c.At i w .arriving) (hr : c.ready? w = none) : Advances outcome c i (c.queue i)
  | reuse {lock x} (h : c.At i .current (.waiting lock)) (hl : c.isTaken lock = false)
    (hx : c.service.current = some x) : Advances outcome c i (c.serve i (.ok x))
  | start {w lock} (h : c.At i w (.waiting lock)) (hl : c.isTaken lock = false)
    (hr : c.ready? w = none) : Advances outcome c i (c.startLoad i lock)
  | finish {w lock n} (h : c.At i w (.loading lock n)) :
    Advances outcome c i (c.finishLoad i lock n (outcome n))

/-- How a move can bring a caller to a stage. -/
inductive Reaches (outcome : Nat → Except String α) (c : Crowd α) (i : Nat) (w : Wish) :
    Move → Stage α → Prop
  | stayed {m s} (h : c.At i w s) : Reaches outcome c i w m s
  | arrived (hi : i = c.callers.length) : Reaches outcome c i w (.call w) .arriving
  | queued (h : c.At i w .arriving) (hr : c.ready? w = none) :
    Reaches outcome c i w (.advance i) (.waiting c.newestLock)
  | took {x} (hw : w = .current) (hx : c.service.current = some x) :
    Reaches outcome c i w (.advance i) (.served (.ok x))
  | entered {lock} (h : c.At i w (.waiting lock)) (hl : c.isTaken lock = false)
    (hr : c.ready? w = none) : Reaches outcome c i w (.advance i) (.loading lock c.service.loads)
  | left {lock n} (h : c.At i w (.loading lock n)) :
    Reaches outcome c i w (.advance i) (.served ((outcome n).map fun a => ⟨n, a⟩))

variable {outcome : Nat → Except String α} {c d : Crowd α} {i j : Nat} {m : Move} {v w : Wish}
  {s t u : Stage α}

theorem At.unique (h : c.At i v s) (h' : c.At i w t) : v = w ∧ s = t := by
  have he := Option.some.inj (h.symm.trans h')
  exact ⟨congrArg Caller.wish he, congrArg Caller.stage he⟩

theorem ready?_eq_some {x : Numbered α} :
    c.ready? w = some x ↔ w = .current ∧ c.service.current = some x := by
  cases w <;> simp [ready?]

theorem advance_cases (outcome : Nat → Except String α) (c : Crowd α) (i : Nat) :
    Advances outcome c i (c.advance outcome i) := by
  unfold advance
  cases hc : c.callers[i]? with
  | none => exact .absent hc
  | some d =>
    obtain ⟨w, s⟩ := d
    cases s with
    | arriving =>
      cases hr : c.ready? w with
      | none => simpa [hr] using .queue hc hr
      | some x =>
        obtain ⟨rfl, hx⟩ := ready?_eq_some.mp hr
        simpa [hr] using .door hc hx
    | waiting lock =>
      cases hl : c.isTaken lock with
      | true => simpa [hl] using .blocked hc hl
      | false =>
        cases hr : c.ready? w with
        | none => simpa [hl, hr] using .start hc hl hr
        | some x =>
          obtain ⟨rfl, hx⟩ := ready?_eq_some.mp hr
          simpa [hl, hr] using .reuse hc hl hx
    | loading lock n => exact .finish hc
    | served r => exact .done hc

theorem advance_waiting {lock : Nat} (h : c.At i w (.waiting lock)) (hl : c.isTaken lock = false) :
    c.advance outcome i = match c.ready? w with
      | some x => c.serve i (.ok x)
      | none => c.startLoad i lock := by
  unfold At at h
  cases hr : c.ready? w with
  | some x => simp [advance, h, hl, hr]
  | none => simp [advance, h, hl, hr]

theorem advance_loading {lock n : Nat} (h : c.At i w (.loading lock n)) :
    c.advance outcome i = c.finishLoad i lock n (outcome n) := by
  unfold At at h
  simp only [advance, h]

theorem at_of_setStage (hd : d.callers = c.setStage i t) (h : c.At i w s) :
    d.At j v u ↔ if j = i then v = w ∧ u = t else c.At j v u := by
  unfold At at *
  rw [hd, setStage, List.getElem?_modify]
  by_cases hj : j = i
  · subst hj
    simp only [h, if_true, Option.map_eq_map, Option.map_some, Option.some.injEq,
      Caller.mk.injEq]
    exact and_congr eq_comm eq_comm
  · simp [hj, Ne.symm hj]

theorem at_of_call : (c.move outcome (.call w)).At i v s ↔
    c.At i v s ∨ i = c.callers.length ∧ v = w ∧ s = .arriving := by
  unfold At move
  rw [List.getElem?_append]
  split_ifs with h
  · simp [Nat.ne_of_lt h]
  · rw [List.getElem?_eq_none (Nat.not_lt.mp h), List.getElem?_singleton]
    have hi : i - c.callers.length = 0 ↔ i = c.callers.length := by omega
    simp [hi, eq_comm]

theorem reaches_of_setStage (hd : d.callers = c.setStage j t) (hj : c.At j v s)
    (hnew : Reaches outcome c j v (.advance j) t) (h : d.At i w u) :
    Reaches outcome c i w (.advance j) u := by
  rw [at_of_setStage hd hj] at h
  split_ifs at h with hij
  · obtain ⟨rfl, rfl⟩ := h
    exact hij ▸ hnew
  · exact .stayed h

theorem reaches_of_advance (h : (c.advance outcome j).At i w u) :
    Reaches outcome c i w (.advance j) u := by
  have hstep := advance_cases outcome c j
  generalize c.advance outcome j = d at hstep h
  cases hstep with
  | absent _ => exact .stayed h
  | done _ => exact .stayed h
  | blocked _ _ => exact .stayed h
  | door hj hx => exact reaches_of_setStage rfl hj (.took rfl hx) h
  | queue hj hr => exact reaches_of_setStage rfl hj (.queued hj hr) h
  | reuse hj _ hx => exact reaches_of_setStage rfl hj (.took rfl hx) h
  | start hj hl hr => exact reaches_of_setStage rfl hj (.entered hj hl hr) h
  | finish hj => exact reaches_of_setStage rfl hj (.left hj) h

theorem reaches_of_at (h : (c.move outcome m).At i w u) : Reaches outcome c i w m u := by
  cases m with
  | call v =>
    obtain h | ⟨rfl, rfl, rfl⟩ := at_of_call.mp h
    · exact .stayed h
    · exact .arrived rfl
  | advance j => exact reaches_of_advance h
  | reset => exact .stayed h

end Crowd

end ScriptHelp
