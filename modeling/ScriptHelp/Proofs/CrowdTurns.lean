import ScriptHelp.Proofs.CrowdSteps
import ScriptHelp.Proofs.Lists
import ScriptHelp.Proofs.ServiceTurns

namespace ScriptHelp

namespace Service

variable {α : Type}

def inTurn (outcome : Nat → Except String α) (s : Service α) :
    List Wish → List (Except String α) × Service α
  | [] => ([], s)
  | w :: ws =>
    let (r, s) := s.serve outcome w
    let (rs, s) := s.inTurn outcome ws
    (r :: rs, s)

def during (s : Service α) : Option β → Service α
  | none => s
  | some _ => { s with loads := s.loads + 1 }

variable {outcome : Nat → Except String α} {s t : Service α} {w : Wish} {ws : List Wish}
  {r : Except String α} {rs : List (Except String α)} {e : String} {x : Numbered α}

theorem inTurn_cons : s.inTurn outcome (w :: ws) =
    ((s.serve outcome w).1 :: ((s.serve outcome w).2.inTurn outcome ws).1,
      ((s.serve outcome w).2.inTurn outcome ws).2) := rfl

theorem inTurn_concat (h : s.inTurn outcome ws = (rs, t)) : s.inTurn outcome (ws ++ [w]) =
    (rs ++ [(t.serve outcome w).1], (t.serve outcome w).2) := by
  induction ws generalizing s rs with
  | nil =>
    obtain ⟨rfl, rfl⟩ := Prod.mk.inj h
    rfl
  | cons v ws ih =>
    rw [inTurn_cons] at h
    obtain ⟨rfl, hlast⟩ := Prod.mk.inj h
    rw [List.cons_append, inTurn_cons, ih (Prod.ext rfl hlast)]
    rfl

theorem serveFrom_none (s : Service α) (w : Wish) :
    s.serveFrom outcome none w = s.serve outcome w := by cases w <;> rfl

/-- A caller who finds a result on arrival finds the same in its turn, if it is served at once. -/
theorem serveFrom_current (s : Service α) (w : Wish) :
    s.serveFrom outcome s.current w = s.serve outcome w := by
  cases w with
  | fresh => rfl
  | current =>
    unfold serveFrom serve
    cases s.current <;> rfl

theorem serve_of_some (h : s.current = some x) : s.serve outcome .current = (.ok x.value, s) := by
  rw [serve, h]

theorem inTurn_service : (s.inTurn (fun _ => r) ws).2 = s.serveAll r none ws := by
  induction ws generalizing s with
  | nil => rfl
  | cons w ws ih =>
    rw [serveAll_cons, serveFrom_none]
    exact ih

/-- While loads fail and there is no result, every caller gets a failure. -/
theorem inTurn_error (h : s.current = none) :
    ∀ x ∈ (s.inTurn (fun _ => .error e) ws).1, x = .error e := by
  induction ws generalizing s with
  | nil => exact fun x hx => absurd hx List.not_mem_nil
  | cons w ws ih =>
    intro x hx
    have hnext : (s.serve (fun _ => .error e) w).2.current = none := by
      have hsame : (s.serveAll (.error e) none [w]).current = s.current := serveAll_error (by simp)
      rw [serveAll_cons, serveFrom_none] at hsame
      exact hsame.trans h
    rw [inTurn_cons] at hx
    rcases List.mem_cons.mp hx with rfl | hx
    · rw [← serveFrom_none]
      exact serveFrom_of_none h
    · exact ih hnext x hx

end Service

def Caller.told? {α : Type} (d : Caller α) : Option (Wish × Except String (Numbered α)) :=
  match d.stage with
  | .served r => some (d.wish, r)
  | _ => none

/-- An upper bound on the steps a caller still takes. -/
def Stage.left {α : Type} : Stage α → Nat
  | .arriving => 3
  | .waiting _ => 2
  | .loading _ _ => 1
  | .served _ => 0

namespace Crowd

variable {α : Type}

def gather (s : Service α) (ws : List Wish) : Crowd α :=
  { service := s, callers := ws.map ({ wish := · }) }

def told (c : Crowd α) : List (Wish × Except String (Numbered α)) :=
  c.callers.filterMap Caller.told?

def leftOf : List (Caller α) → Nat
  | [] => 0
  | d :: ds => d.stage.left + leftOf ds

def left (c : Crowd α) : Nat := leftOf c.callers

/-- The served callers in `order`, one after the other, would have got the same results and led to
the service `t`. A caller inside a load has its turn later. -/
structure Serial (outcome : Nat → Except String α) (s : Service α) (c : Crowd α)
    (inside : Option (Nat × Wish)) (t : Service α)
    (order : List (Wish × Except String (Numbered α))) : Prop where
  locks : c.locks = [inside.isSome]
  service : c.service = t.during inside
  queued : ∀ {i w lock}, c.At i w (.waiting lock) → lock = 0
  loading : ∀ {i w lock n}, c.At i w (.loading lock n) ↔
    inside = some (i, w) ∧ lock = 0 ∧ n = t.loads
  needed : ∀ {i w}, inside = some (i, w) → c.ready? w = none
  told : c.told.Perm order
  turns : s.inTurn outcome (order.map (·.1)) = (order.map fun p => p.2.map (·.value), t)

variable {outcome : Nat → Except String α} {s t : Service α} {c d : Crowd α} {i : Nat} {v w : Wish}
  {inside : Option (Nat × Wish)} {order : List (Wish × Except String (Numbered α))}
  {st u : Stage α} {x : Numbered α} {ws : List Wish}

theorem current_during (t : Service α) (inside : Option (Nat × Wish)) :
    (t.during inside).current = t.current := by cases inside <;> rfl

theorem told_setStage (hd : d.callers = c.setStage i u) (hi : c.At i w st)
    (hst : Caller.told? ⟨w, st⟩ = none) : d.told.Perm (c.told ++ (Caller.told? ⟨w, u⟩).toList) := by
  obtain ⟨xs, ys, hc, hmodify⟩ := Lists.exists_around hi
  rw [Crowd.told, Crowd.told, hd, setStage, hmodify, hc, List.filterMap_append,
    List.filterMap_append, List.filterMap_cons, List.filterMap_cons, hst]
  cases Caller.told? ⟨w, u⟩ with
  | none => rw [Option.toList_none, List.append_nil]
  | some p => exact List.perm_middle.trans (List.perm_append_singleton p _).symm

theorem told_setStage_of_none (hd : d.callers = c.setStage i u) (hi : c.At i w st)
    (hst : Caller.told? ⟨w, st⟩ = none) (hu : Caller.told? ⟨w, u⟩ = none) :
    d.told.Perm c.told := by
  have h := told_setStage hd hi hst
  rwa [hu, Option.toList_none, List.append_nil] at h

theorem leftOf_append (xs ys : List (Caller α)) : leftOf (xs ++ ys) = leftOf xs + leftOf ys := by
  induction xs with
  | nil => rw [List.nil_append, leftOf, Nat.zero_add]
  | cons x xs ih => rw [List.cons_append, leftOf, leftOf, ih, Nat.add_assoc]

theorem leftOf_eq_zero_iff {ds : List (Caller α)} :
    leftOf ds = 0 ↔ ∀ d ∈ ds, d.stage.left = 0 := by
  induction ds with
  | nil => simp [leftOf]
  | cons d ds ih => rw [leftOf, Nat.add_eq_zero_iff, ih, List.forall_mem_cons]

theorem left_setStage (hd : d.callers = c.setStage i u) (hi : c.At i w st) :
    d.left + st.left = c.left + u.left := by
  obtain ⟨xs, ys, hc, hmodify⟩ := Lists.exists_around hi
  rw [Crowd.left, Crowd.left, hd, setStage, hmodify, hc, leftOf_append, leftOf_append, leftOf,
    leftOf]
  dsimp only
  omega

theorem left_lt_of_setStage (hi : c.At i w st) (hd : d.callers = c.setStage i u)
    (hlt : u.left < st.left) : d.left < c.left := by
  have hsum := left_setStage hd hi
  omega

theorem ready?_eq_none (h : c.service.current = t.current) (hr : c.ready? w = none) :
    t.serve outcome w = t.loadNow outcome := by
  cases w with
  | fresh => rfl
  | current =>
    rw [Service.serve, ← h, show c.service.current = none from hr]

namespace Serial

theorem start (s : Service α) (ws : List Wish) : Serial outcome s (gather s ws) none s [] := by
  have harriving : ∀ {i w st}, (gather s ws).At i w st → st = .arriving := by
    intro i w st hi
    obtain ⟨v, -, hv⟩ := List.mem_map.mp (List.mem_of_getElem? hi)
    exact (Caller.mk.inj hv).2.symm
  refine ⟨rfl, rfl, ?_, ?_, ?_, ?_, rfl⟩
  · intro i w lock hi
    exact absurd (harriving hi) (by simp)
  · intro i w lock n
    constructor
    · intro hi
      exact absurd (harriving hi) (by simp)
    · rintro ⟨hnone, -⟩
      exact absurd hnone (by simp)
  · intro i w hnone
    exact absurd hnone (by simp)
  · have hnil : (gather s ws).told = [] := by
      rw [Crowd.told, List.filterMap_eq_nil_iff]
      intro d hd
      obtain ⟨v, -, rfl⟩ := List.mem_map.mp hd
      rfl
    rw [hnil]

/-- A step outside any load keeps the order. -/
theorem settle {later : List (Wish × Except String (Numbered α))}
    (h : Serial outcome s c inside t order) (hi : c.At i w st)
    (hst : ∀ lock n, st ≠ .loading lock n) (hu : ∀ lock n, u ≠ .loading lock n)
    (hq : ∀ lock, u = .waiting lock → lock = 0)
    (htold : Crowd.told { c with callers := c.setStage i u } |>.Perm later)
    (hturns : s.inTurn outcome (later.map (·.1)) = (later.map fun p => p.2.map (·.value), t)) :
    Serial outcome s { c with callers := c.setStage i u } inside t later := by
  have hat : ∀ {j v u'}, ({ c with callers := c.setStage i u } : Crowd α).At j v u' ↔
      if j = i then v = w ∧ u' = u else c.At j v u' := at_of_setStage rfl hi
  refine ⟨h.locks, h.service, ?_, ?_, h.needed, htold, hturns⟩
  · intro j v lock hj
    rw [hat] at hj
    split_ifs at hj
    · exact hq lock hj.2.symm
    · exact h.queued hj
  · intro j v lock n
    rw [hat, ← h.loading]
    by_cases hj : j = i
    · subst hj
      rw [if_pos rfl]
      constructor
      · exact fun hj => absurd hj.2.symm (hu lock n)
      · exact fun hj => absurd (hi.unique hj).2 (hst lock n)
    · rw [if_neg hj]

theorem take (h : Serial outcome s c inside t order) (hi : c.At i .current st)
    (hst : ∀ lock n, st ≠ .loading lock n) (hnot : Caller.told? ⟨.current, st⟩ = none)
    (hx : c.service.current = some x) :
    Serial outcome s (c.serve i (.ok x)) inside t (order ++ [(.current, .ok x)]) := by
  have htx : t.current = some x := by rwa [h.service, current_during] at hx
  apply h.settle hi hst
  · simp
  · simp
  · exact (told_setStage rfl hi hnot).trans (h.told.append_right _)
  · rw [List.map_append, List.map_append]
    refine (Service.inTurn_concat h.turns).trans ?_
    rw [Service.serve_of_some htx]
    rfl

theorem queue (h : Serial outcome s c inside t order) (hi : c.At i w .arriving) :
    Serial outcome s (c.queue i) inside t order := by
  apply h.settle hi
  · simp
  · simp
  · intro lock hlock
    simp only [newestLock, h.locks, Stage.waiting.injEq] at hlock
    exact hlock.symm
  · exact (told_setStage_of_none rfl hi rfl rfl).trans h.told
  · exact h.turns

theorem free_iff (h : Serial outcome s c inside t order) : c.isTaken 0 = false ↔ inside = none := by
  rw [isTaken, h.locks]
  cases inside <;> simp

theorem enter {lock : Nat} (h : Serial outcome s c inside t order) (hi : c.At i w (.waiting lock))
    (hl : c.isTaken lock = false) (hr : c.ready? w = none) :
    Serial outcome s (c.startLoad i lock) (some (i, w)) t order := by
  have hzero := h.queued hi
  subst hzero
  have hnone := h.free_iff.mp hl
  subst hnone
  have hservice : c.service = t := h.service
  have hat : ∀ {j v u'}, (c.startLoad i 0).At j v u' ↔
      if j = i then v = w ∧ u' = .loading 0 c.service.loads else c.At j v u' :=
    at_of_setStage rfl hi
  refine ⟨?_, ?_, ?_, ?_, ?_, ?_, h.turns⟩
  · change c.locks.set 0 true = [true]
    rw [h.locks]
    rfl
  · rw [← hservice]
    rfl
  · intro j v lock hj
    rw [hat] at hj
    split_ifs at hj
    · exact absurd hj.2 (by simp)
    · exact h.queued hj
  · intro j v lock n
    rw [hat, hservice]
    by_cases hj : j = i
    · subst hj
      simp [eq_comm]
    · rw [if_neg hj, h.loading]
      simp [Ne.symm hj]
  · intro j v hj
    obtain ⟨-, rfl⟩ := Prod.mk.inj (Option.some.inj hj)
    cases w with
    | fresh => rfl
    | current => exact hr
  · exact (told_setStage_of_none rfl hi rfl rfl).trans h.told

theorem leave {lock n : Nat} (h : Serial outcome s c inside t order)
    (hi : c.At i w (.loading lock n)) :
    Serial outcome s (c.finishLoad i lock n (outcome n)) none (t.loadNow outcome).2
      (order ++ [(w, (outcome n).map fun a => ⟨n, a⟩)]) := by
  obtain ⟨rfl, rfl, rfl⟩ := h.loading.mp hi
  have hat : ∀ {j v u'}, (c.finishLoad i 0 t.loads (outcome t.loads)).At j v u' ↔
      if j = i then v = w ∧ u' = .served ((outcome t.loads).map fun a => ⟨t.loads, a⟩)
      else c.At j v u' := at_of_setStage rfl hi
  have hserve : t.serve outcome w = t.loadNow outcome :=
    ready?_eq_none (by rw [h.service, current_during]) (h.needed rfl)
  refine ⟨?_, ?_, ?_, ?_, ?_, ?_, ?_⟩
  · change c.locks.set 0 false = [false]
    rw [h.locks]
    rfl
  · change c.service.finish t.loads (outcome t.loads) = _
    rw [h.service]
    rfl
  · intro j v lock hj
    rw [hat] at hj
    split_ifs at hj
    · exact absurd hj.2 (by simp)
    · exact h.queued hj
  · intro j v lock n
    rw [hat]
    by_cases hj : j = i
    · simp [hj]
    · rw [if_neg hj, h.loading]
      simp [Ne.symm hj]
  · intro j v hj
    exact absurd hj (by simp)
  · exact (told_setStage rfl hi rfl).trans (h.told.append_right _)
  · have hvalue : ((outcome t.loads).map fun a => (⟨t.loads, a⟩ : Numbered α)).map (·.value) =
        outcome t.loads := by cases outcome t.loads <;> rfl
    rw [List.map_append, List.map_append]
    refine (Service.inTurn_concat h.turns).trans ?_
    rw [hserve, List.map_singleton, hvalue]
    rfl

/-- Every step of a caller keeps the crowd serial. -/
theorem advance (h : Serial outcome s c inside t order) (i : Nat) :
    ∃ inside t order, Serial outcome s (c.advance outcome i) inside t order := by
  have hstep := advance_cases outcome c i
  generalize c.advance outcome i = d at hstep ⊢
  cases hstep with
  | absent _ => exact ⟨_, _, _, h⟩
  | done _ => exact ⟨_, _, _, h⟩
  | blocked _ _ => exact ⟨_, _, _, h⟩
  | door hi hx => exact ⟨_, _, _, h.take hi (by simp) rfl hx⟩
  | queue hi _ => exact ⟨_, _, _, h.queue hi⟩
  | reuse hi _ hx => exact ⟨_, _, _, h.take hi (by simp) rfl hx⟩
  | start hi hl hr => exact ⟨_, _, _, h.enter hi hl hr⟩
  | finish hi => exact ⟨_, _, _, h.leave hi⟩

theorem run (h : Serial outcome s c inside t order) (turns : List Nat) :
    ∃ inside t order, Serial outcome s (c.run outcome (turns.map .advance)) inside t order := by
  -- the order grows with the turns and is never changed behind
  induction turns generalizing c inside t order with
  | nil => exact ⟨inside, t, order, h⟩
  | cons i turns ih =>
    obtain ⟨inside', t', order', h'⟩ := h.advance i
    exact ih h'

/-- While some caller has no result, some caller can advance. -/
theorem exists_turn (h : Serial outcome s c inside t order) (hc : c.left ≠ 0) :
    ∃ i, (c.advance outcome i).left < c.left := by
  cases inside with
  | some p =>
    -- the one inside the load ends it
    obtain ⟨i, w⟩ := p
    have hi : c.At i w (.loading 0 t.loads) := h.loading.mpr ⟨rfl, rfl, rfl⟩
    refine ⟨i, ?_⟩
    rw [advance_loading hi]
    exact left_lt_of_setStage hi rfl Nat.zero_lt_one
  | none =>
    have hsome : ∃ d ∈ c.callers, d.stage.left ≠ 0 := by
      by_contra hall
      apply hc
      apply leftOf_eq_zero_iff.mpr
      intro d hd
      by_contra hne
      exact hall ⟨d, hd, hne⟩
    obtain ⟨⟨w, st⟩, hd, hst⟩ := hsome
    obtain ⟨i, hi⟩ := List.mem_iff_getElem?.mp hd
    refine ⟨i, ?_⟩
    -- nobody is inside a load, so every unserved caller can advance
    have hstep := advance_cases outcome c i
    generalize c.advance outcome i = d at hstep ⊢
    cases hstep with
    | absent hnone => exact absurd (hnone.symm.trans hi) (by simp)
    | done hi' =>
      obtain ⟨-, rfl⟩ := At.unique hi hi'
      exact absurd rfl hst
    | blocked hi' hl =>
      have hzero := h.queued hi'
      subst hzero
      exact absurd (hl.symm.trans (h.free_iff.mpr rfl)) (by simp)
    | door hi' _ => exact left_lt_of_setStage hi' rfl (Nat.zero_lt_succ 2)
    | queue hi' _ => exact left_lt_of_setStage hi' rfl (Nat.lt_succ_self 2)
    | reuse hi' _ _ => exact left_lt_of_setStage hi' rfl Nat.zero_lt_two
    | start hi' _ _ => exact left_lt_of_setStage hi' rfl (Nat.lt_succ_self 1)
    | finish hi' => exact left_lt_of_setStage hi' rfl Nat.zero_lt_one

/-- From every state all callers can get their results. -/
theorem exists_end (h : Serial outcome s c inside t order) :
    ∃ more : List Nat, (c.run outcome (more.map .advance)).left = 0 := by
  induction hn : c.left using Nat.strongRecOn generalizing c inside t order with
  | ind n ih =>
    by_cases hc : c.left = 0
    · exact ⟨[], hc⟩
    · obtain ⟨i, hi⟩ := h.exists_turn hc
      obtain ⟨inside', t', order', h'⟩ := h.advance i
      obtain ⟨more, hmore⟩ := ih _ (hn ▸ hi) h' rfl
      exact ⟨i :: more, hmore⟩

theorem eq_none_of_served (h : Serial outcome s c inside t order)
    (hc : ∀ d ∈ c.callers, ∃ r, d.stage = .served r) : inside = none := by
  cases inside with
  | none => rfl
  | some p =>
    obtain ⟨i, w⟩ := p
    have hi : c.At i w (.loading 0 t.loads) := h.loading.mpr ⟨rfl, rfl, rfl⟩
    obtain ⟨r, hr⟩ := hc _ (List.mem_of_getElem? hi)
    exact absurd hr (by simp)

end Serial

theorem served_of_left (h : c.left = 0) : ∀ d ∈ c.callers, ∃ r, d.stage = .served r := by
  intro d hd
  have hzero : d.stage.left = 0 := leftOf_eq_zero_iff.mp h d hd
  cases hst : d.stage with
  | served r => exact ⟨r, rfl⟩
  | _ =>
    rw [hst] at hzero
    exact absurd hzero (by simp [Stage.left])

theorem wishes_advance (outcome : Nat → Except String α) (c : Crowd α) (i : Nat) :
    (c.advance outcome i).callers.map (·.wish) = c.callers.map (·.wish) := by
  have hset : ∀ u, (c.setStage i u).map (·.wish) = c.callers.map (·.wish) := fun u =>
    Lists.map_modify_eq (f := fun d => { d with stage := u }) (fun _ => rfl) i c.callers
  have hstep := advance_cases outcome c i
  generalize c.advance outcome i = d at hstep ⊢
  cases hstep with
  | absent _ => rfl
  | done _ => rfl
  | blocked _ _ => rfl
  | _ => exact hset _

theorem wishes_run (outcome : Nat → Except String α) (c : Crowd α) (turns : List Nat) :
    (c.run outcome (turns.map .advance)).callers.map (·.wish) = c.callers.map (·.wish) := by
  induction turns generalizing c with
  | nil => rfl
  | cons i turns ih => exact (ih (c.advance outcome i)).trans (wishes_advance outcome c i)

theorem wishes_gather (s : Service α) (ws : List Wish) :
    (gather s ws).callers.map (·.wish) = ws := by
  rw [gather, List.map_map]
  exact List.map_id ws

/-- However the callers came to their results, some order gives them the same results one after the
other and leaves the same service. -/
theorem exists_order {turns : List Nat} (hc : c = (gather s ws).run outcome (turns.map .advance))
    (hserved : ∀ d ∈ c.callers, ∃ r, d.stage = .served r) :
    ∃ order, c.told.Perm order ∧ s.inTurn outcome (order.map (·.1)) =
      (order.map fun p => p.2.map (·.value), c.service) := by
  subst hc
  have hstart : Serial outcome s (gather s ws) none s [] := .start s ws
  obtain ⟨inside, t, order, h⟩ := hstart.run turns
  have hnone := h.eq_none_of_served hserved
  subst hnone
  exact ⟨order, h.told, h.service.symm ▸ h.turns⟩

/-- A caller after its arrival: it has taken what it found there, or it waits. -/
def atDoor (door : Option (Numbered α)) (w : Wish) : Caller α where
  wish := w
  stage := match w, door with
    | .current, some x => .served (.ok x)
    | _, _ => .waiting 0

/-- Advancing the caller at a known position. -/
theorem at_length {xs ys : List (Caller α)} (hc : c.callers = xs ++ ⟨w, st⟩ :: ys) :
    c.At xs.length w st ∧ c.setStage xs.length u = xs ++ ⟨w, u⟩ :: ys := by
  refine ⟨?_, ?_⟩
  · rw [At, hc, List.getElem?_append_right (Nat.le_refl _), Nat.sub_self]
    rfl
  · rw [setStage, hc]
    exact Lists.modify_length xs ys _ _

theorem advance_door (s : Service α) (w : Wish) (xs ys : List (Caller α)) :
    advance outcome { service := s, callers := xs ++ { wish := w } :: ys } xs.length =
      { service := s, callers := xs ++ atDoor s.current w :: ys } := by
  let c : Crowd α := { service := s, callers := xs ++ { wish := w } :: ys }
  have hat : c.At xs.length w .arriving := (at_length (u := .arriving) rfl).1
  have hset : ∀ u, c.setStage xs.length u = xs ++ ⟨w, u⟩ :: ys := fun u => (at_length rfl).2
  have hstep := advance_cases outcome c xs.length
  change c.advance outcome xs.length = _
  generalize c.advance outcome xs.length = d at hstep ⊢
  cases hstep with
  | absent hnone => exact absurd (hnone.symm.trans hat) (by simp)
  | door hi hx =>
    obtain ⟨rfl, -⟩ := hat.unique hi
    have hs : s.current = some _ := hx
    rw [serve, hset, hs]
    rfl
  | queue hi hr =>
    obtain ⟨rfl, -⟩ := hat.unique hi
    rw [queue, hset]
    cases w with
    | fresh => rfl
    | current =>
      have hs : s.current = none := hr
      rw [hs]
      rfl
  | _ hi => exact absurd (hat.unique hi).2 (by simp)

/-- All callers can arrive before any of them loads. -/
theorem exists_turns_door (s : Service α) (ws : List Wish) (xs : List (Caller α)) :
    ∃ turns : List Nat,
      run outcome { service := s, callers := xs ++ ws.map ({ wish := · }) } (turns.map .advance) =
        { service := s, callers := xs ++ ws.map (atDoor s.current) } := by
  induction ws generalizing xs with
  | nil => exact ⟨[], rfl⟩
  | cons w ws ih =>
    obtain ⟨turns, hturns⟩ := ih (xs ++ [atDoor s.current w])
    rw [List.append_assoc, List.append_assoc] at hturns
    refine ⟨xs.length :: turns, ?_⟩
    change run outcome (advance outcome _ xs.length) _ = _
    rw [List.map_cons, advance_door]
    exact hturns

/-- One who has been at the door can be served without a pause. -/
theorem exists_turns_served (s : Service α) (door : Option (Numbered α)) (w : Wish)
    (xs ys : List (Caller α)) : ∃ (turns : List Nat) (x : Except String (Numbered α)),
      run outcome { service := s, callers := xs ++ atDoor door w :: ys } (turns.map .advance) =
        { service := (s.serveFrom outcome door w).2, callers := xs ++ ⟨w, .served x⟩ :: ys } ∧
      x.map (·.value) = (s.serveFrom outcome door w).1 := by
  by_cases hdoor : ∃ x, w = .current ∧ door = some x
  · -- served at the door
    obtain ⟨x, rfl, rfl⟩ := hdoor
    exact ⟨[], .ok x, rfl, rfl⟩
  · have hwait : atDoor door w = ⟨w, .waiting 0⟩ := by
      cases w <;> cases door <;> simp_all [atDoor]
    have hserve : s.serveFrom outcome door w = s.serve outcome w := by
      cases w <;> cases door <;> simp_all [Service.serveFrom]
    rw [hwait, hserve]
    let c : Crowd α := { service := s, callers := xs ++ ⟨w, .waiting 0⟩ :: ys }
    have hat : c.At xs.length w (.waiting 0) := (at_length (u := .arriving) rfl).1
    have hset : ∀ u, c.setStage xs.length u = xs ++ ⟨w, u⟩ :: ys := fun u => (at_length rfl).2
    cases hr : c.ready? w with
    | some x =>
      -- somebody before has loaded, and one turn is enough
      obtain ⟨rfl, hx⟩ := ready?_eq_some.mp hr
      have hs : s.current = some x := hx
      refine ⟨[xs.length], .ok x, ?_, ?_⟩
      · change c.advance outcome xs.length = _
        rw [advance_waiting hat rfl, hr, Service.serve_of_some hs]
        change c.serve xs.length (.ok x) = _
        rw [serve, hset]
      · rw [Service.serve_of_some hs]
        rfl
    | none =>
      -- one turn to begin the load and one to end it
      have hload : s.serve outcome w = s.loadNow outcome := ready?_eq_none rfl hr
      refine ⟨[xs.length, xs.length], (outcome s.loads).map fun a => ⟨s.loads, a⟩, ?_, ?_⟩
      · change (c.advance outcome xs.length).advance outcome xs.length = _
        rw [advance_waiting hat rfl, hr, hload]
        change (c.startLoad xs.length 0).advance outcome xs.length = _
        have hcallers := hset (.loading 0 s.loads)
        rw [advance_loading (at_length (u := .arriving) hcallers).1, finishLoad,
          (at_length hcallers).2]
        rfl
      · rw [hload]
        change _ = outcome s.loads
        cases outcome s.loads <;> rfl

end Crowd

end ScriptHelp
