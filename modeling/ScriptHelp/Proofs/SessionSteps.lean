import ScriptHelp.Proofs.Results
import ScriptHelp.Proofs.ServiceTurns
import ScriptHelp.Session

namespace ScriptHelp

/-- The wish of a request; one with invalid arguments has none. -/
def Request.wish? (r : Request) : Option Wish :=
  match Call.read r.tool r.arguments with
  | .ok c => some c.wish
  | .error _ => none

def Request.answerFrom (x : Snapshot) (r : Request) : Answer :=
  match Call.read r.tool r.arguments with
  | .ok c => c.answer (.ok x)
  | .error ps => .error (.arguments ps)

namespace Call

theorem tool_of_read {t : Tool} {args : List (String × Json)} {c : Call} (h : read t args = .ok c) :
    c.tool = t := by
  obtain ⟨⟨c', u⟩, hboth, rfl⟩ := map_eq_ok h
  have hknown : knownArguments args t = .ok c' := by
    unfold Checked.both at hboth
    split at hboth <;> simp_all
  cases t with
  | help =>
    obtain ⟨q, -, rfl⟩ := map_eq_ok hknown
    rfl
  | catchAll =>
    obtain ⟨m, -, rfl⟩ := map_eq_ok hknown
    rfl
  | reload =>
    rw [← Except.ok.inj hknown]
    rfl

theorem wish_of_read {t : Tool} {args : List (String × Json)} {c : Call} (h : read t args = .ok c)
    (ht : t ≠ .reload) : c.wish = .current := by
  cases c with
  | reload => exact absurd (tool_of_read h).symm ht
  | _ => rfl

end Call

namespace Session

def Step.wishes : Step → List Wish
  | .call r => r.wish?.toList
  | .together rs => rs.filterMap Request.wish?
  | .hold => [.current]
  | _ => []

def snapshot? (s : Session) : Option Snapshot := s.service.value?

/-- The loads that a step starts: one for each reload, and one for each other caller who finds no
snapshot in its turn. -/
def newLoads (s : Session) (st : Step) : Nat :=
  Wish.dueAll s.outcome.isOk s.snapshot?.isSome st.wishes

def Renews (s : Session) (st : Step) : Prop := s.outcome.isOk = true ∧ 0 < s.newLoads st

variable {s t : Session} {r : Request} {rs : List Request} {st : Step}
  {door out : Option (Numbered Snapshot)} {x : Numbered Snapshot}

theorem answer_session : (s.answer door r).2 =
    { s with service := s.service.serveAll s.outcome door r.wish?.toList } := by
  unfold answer Request.wish?
  cases Call.read r.tool r.arguments <;> rfl

theorem answers_session : (s.answers door rs).2 =
    { s with service := s.service.serveAll s.outcome door (rs.filterMap Request.wish?) } := by
  induction rs generalizing s with
  | nil => rfl
  | cons r rs ih =>
    change ((s.answer door r).2.answers door rs).2 = _
    rw [ih, answer_session, List.filterMap_cons]
    cases r.wish? <;> rfl

theorem service_step (h : st ≠ .reset) : (s.step st).2.service =
    s.service.serveAll s.outcome s.service.current st.wishes := by
  cases st with
  | call r =>
    change (s.answer s.service.current r).2.service = _
    rw [answer_session]
    rfl
  | together rs =>
    change (s.answers s.service.current rs).2.service = _
    rw [answers_session]
    rfl
  | hold =>
    change s.keep.2.service = _
    unfold keep
    cases h : s.serve s.service.current .current with
    | mk result s' =>
      have hs : s' = (s.serve s.service.current .current).2 := by rw [h]
      cases result <;> (subst hs; rfl)
  | reset => exact absurd rfl h
  | _ => rfl

theorem loads_step (s : Session) (st : Step) :
    (s.step st).2.service.loads = s.service.loads + s.newLoads st := by
  by_cases h : st = .reset
  · subst h
    rfl
  · rw [service_step h, Service.serveAll_loads id, newLoads, snapshot?, Service.value?,
      Option.isSome_map]

/-- A step without a successful load leaves the snapshot as it is. -/
theorem current_step (h : ¬ s.Renews st) (hst : st ≠ .reset) :
    (s.step st).2.service.current = s.service.current := by
  rw [service_step hst]
  cases hout : s.outcome with
  | error m => exact Service.serveAll_error id
  | ok a =>
    have hok : s.outcome.isOk = true := by rw [hout]; rfl
    have hnone : s.newLoads st = 0 := Nat.eq_zero_of_not_pos fun hpos => h ⟨hok, hpos⟩
    rw [newLoads, hout, snapshot?, Service.value?, Option.isSome_map] at hnone
    rw [Service.serveAll_of_due_eq_zero id hnone]

theorem outcome_of_isOk (h : s.outcome.isOk = true) :
    s.outcome = .ok (.load s.host s.environment) := by
  unfold outcome at h ⊢
  cases hs : s.obstacle with
  | none => rfl
  | some m => simp [hs, Except.isOk, Except.toBool] at h

theorem snapshot?_step (h : s.Renews st) :
    (s.step st).2.snapshot? = some (.load s.host s.environment) := by
  obtain ⟨hok, hpos⟩ := h
  have hst : st ≠ .reset := by
    rintro rfl
    simp [newLoads, Step.wishes, Wish.dueAll] at hpos
  rw [newLoads, hok, snapshot?, Service.value?, Option.isSome_map] at hpos
  rw [snapshot?, service_step hst, outcome_of_isOk hok]
  exact Service.serveAll_ok id hpos

theorem answer_of_door (hr : r.tool ≠ .reload) :
    (s.answer (some x) r).1 = r.answerFrom x.value := by
  unfold answer Request.answerFrom
  cases h : Call.read r.tool r.arguments with
  | error ps => rfl
  | ok c =>
    change c.answer (s.serve (some x) c.wish).1 = _
    rw [Call.wish_of_read h hr]
    rfl

theorem answers_of_door {i : Nat} (hi : rs[i]? = some r) (hr : r.tool ≠ .reload) :
    (s.answers (some x) rs).1[i]? = some (r.answerFrom x.value) := by
  induction rs generalizing s i with
  | nil => simp at hi
  | cons r' rs ih =>
    cases i with
    | zero =>
      rw [List.getElem?_cons_zero, Option.some.injEq] at hi
      subst hi
      exact congrArg some (answer_of_door hr)
    | succ i => exact ih hi

theorem answer_of_snapshot? {x : Snapshot} (hx : s.snapshot? = some x) (hr : r.tool ≠ .reload) :
    (s.step (.call r)).1 = .answer (r.answerFrom x) := by
  obtain ⟨y, hy, rfl⟩ := Option.map_eq_some_iff.mp hx
  change Output.answer (s.answer s.service.current r).1 = _
  rw [hy, answer_of_door hr]

theorem answer_of_cold {c : Call} (hs : s.snapshot? = none)
    (hc : Call.read r.tool r.arguments = .ok c) :
    (s.step (.call r)).1 = .answer (c.answer s.outcome) := by
  have hnone : s.service.current = none := Option.map_eq_none_iff.mp hs
  change Output.answer (s.answer s.service.current r).1 = _
  unfold answer
  rw [hc, hnone]
  change Output.answer (c.answer (s.service.serveFrom (fun _ => s.outcome) none c.wish).1) = _
  rw [Service.serveFrom_of_none hnone]

theorem held_step (h : st ≠ .hold) : (s.step st).2.held = s.held := by
  cases st with
  | call r =>
    change (s.answer s.service.current r).2.held = _
    rw [answer_session]
  | together rs =>
    change (s.answers s.service.current rs).2.held = _
    rw [answers_session]
  | hold => exact absurd rfl h
  | _ => rfl

theorem held_of_failure (h : (s.step .hold).1 ≠ .done) : (s.step .hold).2.held = s.held := by
  change s.keep.1 ≠ .done at h
  change s.keep.2.held = _
  unfold keep at h ⊢
  cases hserve : s.serve s.service.current .current with
  | mk result s' =>
    have hs' : s' = (s.serve s.service.current .current).2 := by rw [hserve]
    rw [hserve] at h
    cases result with
    | ok a => exact absurd rfl h
    | error m =>
      subst hs'
      rfl

/-- Equal up to load numbers. -/
structure Alike (s t : Session) : Prop where
  host : s.host = t.host
  environment : s.environment = t.environment
  obstacle : s.obstacle = t.obstacle
  held : s.held = t.held
  snapshot : s.snapshot? = t.snapshot?

namespace Alike

theorem outcome (h : Alike s t) : s.outcome = t.outcome := by
  unfold Session.outcome
  rw [h.host, h.environment, h.obstacle]

theorem serve (h : Alike s t) (hd : door.map (·.value) = out.map (·.value)) (w : Wish) :
    (s.serve door w).1 = (t.serve out w).1 ∧ Alike (s.serve door w).2 (t.serve out w).2 := by
  obtain ⟨hresult, hvalue⟩ := Service.serveFrom_alike (r := s.outcome) (w := w) h.snapshot hd
  refine ⟨?_, h.host, h.environment, h.obstacle, h.held, ?_⟩
  · exact hresult.trans (by rw [h.outcome]; rfl)
  · exact hvalue.trans (by rw [h.outcome]; rfl)

theorem answer (h : Alike s t) (hd : door.map (·.value) = out.map (·.value)) (r : Request) :
    (s.answer door r).1 = (t.answer out r).1 ∧ Alike (s.answer door r).2 (t.answer out r).2 := by
  unfold Session.answer
  cases Call.read r.tool r.arguments with
  | error ps => exact ⟨rfl, h⟩
  | ok c =>
    obtain ⟨hresult, hnext⟩ := h.serve hd c.wish
    exact ⟨congrArg c.answer hresult, hnext⟩

theorem answers (h : Alike s t) (hd : door.map (·.value) = out.map (·.value)) (rs : List Request) :
    (s.answers door rs).1 = (t.answers out rs).1 ∧
      Alike (s.answers door rs).2 (t.answers out rs).2 := by
  induction rs generalizing s t with
  | nil => exact ⟨rfl, h⟩
  | cons r rs ih =>
    obtain ⟨hfirst, hnext⟩ := h.answer hd r
    obtain ⟨hrest, hlast⟩ := ih hnext
    refine ⟨?_, hlast⟩
    change (s.answer door r).1 :: _ = (t.answer out r).1 :: _
    rw [hfirst]
    exact congrArg _ hrest

theorem keep (h : Alike s t) : s.keep.1 = t.keep.1 ∧ Alike s.keep.2 t.keep.2 := by
  obtain ⟨hresult, hnext⟩ := h.serve h.snapshot .current
  unfold Session.keep
  cases hs : s.serve s.service.current .current with
  | mk a s' =>
    cases ht : t.serve t.service.current .current with
    | mk b t' =>
      rw [hs, ht] at hresult hnext
      subst hresult
      cases a with
      | ok x => exact ⟨rfl, { hnext with held := rfl }⟩
      | error m => exact ⟨rfl, hnext⟩

theorem step (h : Alike s t) (st : Step) :
    (s.step st).1 = (t.step st).1 ∧ Alike (s.step st).2 (t.step st).2 := by
  cases st with
  | call r =>
    obtain ⟨ha, hnext⟩ := h.answer h.snapshot r
    exact ⟨congrArg Output.answer ha, hnext⟩
  | together rs =>
    obtain ⟨ha, hnext⟩ := h.answers h.snapshot rs
    exact ⟨congrArg Output.answers ha, hnext⟩
  | write p content =>
    let write : Host → Host := fun d => { d with tree := d.tree.write p content }
    exact ⟨rfl, { h with host := congrArg write h.host }⟩
  | delete p =>
    let delete : Host → Host := fun d => { d with tree := d.tree.delete p }
    exact ⟨rfl, { h with host := congrArg delete h.host }⟩
  | setEnvironment changes =>
    exact ⟨rfl, { h with environment := congrArg (changes.foldl _) h.environment }⟩
  | reset => exact ⟨rfl, { h with snapshot := rfl }⟩
  | obstruct message => exact ⟨rfl, { h with obstacle := rfl }⟩
  | hold => exact h.keep
  | askHeld query =>
    refine ⟨?_, h⟩
    change s.askHeld query = t.askHeld query
    unfold askHeld
    rw [h.held]

end Alike

/-- A call whose load fails changes only the number of loads. -/
theorem alike_call {reason : String} (h : s.outcome = .error reason) :
    Alike (s.step (.call r)).2 s := by
  change Alike (s.answer s.service.current r).2 s
  rw [answer_session]
  refine ⟨rfl, rfl, rfl, rfl, ?_⟩
  change (Service.serveAll s.outcome s.service.current s.service _).value? = s.service.value?
  rw [Service.value?, h, Service.serveAll_error id]
  rfl

end Session

end ScriptHelp
