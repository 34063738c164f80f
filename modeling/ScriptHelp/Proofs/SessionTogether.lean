import ScriptHelp.Proofs.CrowdTurns
import ScriptHelp.Proofs.ToolAnswers

namespace ScriptHelp

def Request.answerTo (r : Request) (x : Except String Snapshot) : Answer :=
  match Call.read r.tool r.arguments with
  | .ok c => c.answer x
  | .error ps => .error (.arguments ps)

def Request.Asks (r : Request) : Prop :=
  r.tool ≠ .reload ∧ ∃ c, Call.read r.tool r.arguments = .ok c

namespace Wish

theorem dueAll_current {works present : Bool} {ws : List Wish} (h : ∀ w ∈ ws, w = .current) :
    dueAll works present ws =
      if present then 0 else if works then min 1 ws.length else ws.length := by
  induction ws generalizing present with
  | nil => cases present <;> cases works <;> rfl
  | cons w ws ih =>
    obtain rfl := h w List.mem_cons_self
    rw [dueAll, ih fun w hw => h w (List.mem_cons_of_mem _ hw)]
    cases present <;> cases works <;> simp [due, Nat.add_comm]

end Wish

namespace Session

/-- The callers of concurrent requests. One with invalid arguments makes none. -/
def crowd (s : Session) (rs : List Request) : Crowd Snapshot :=
  .gather s.service (rs.filterMap Request.wish?)

def crowdAfter (s : Session) (rs : List Request) (turns : List Nat) : Crowd Snapshot :=
  (s.crowd rs).run (fun _ => s.outcome) (turns.map .advance)

/-- Served callers, their requests, and the answers to these. -/
inductive Answered : List Request → List (Caller Snapshot) → List Answer → Prop
  | nil : Answered [] [] []
  | refused {r rs ds as ps} (h : Call.read r.tool r.arguments = .error ps)
    (hs : Answered rs ds as) : Answered (r :: rs) ds (.error (.arguments ps) :: as)
  | served {r rs ds as c x} (h : Call.read r.tool r.arguments = .ok c) (hs : Answered rs ds as) :
    Answered (r :: rs) (⟨c.wish, .served x⟩ :: ds) (c.answer (x.map (·.value)) :: as)

/-- After these turns all requests are answered, and the session is `t`. -/
structure Ends (s : Session) (rs : List Request) (turns : List Nat) (as : List Answer)
    (t : Session) : Prop where
  answered : Answered rs (s.crowdAfter rs turns).callers as
  session : t = { s with service := (s.crowdAfter rs turns).service }

def InTurn (s : Session) (order : List (Request × Answer)) (t : Session) : Prop :=
  (s.run (order.map fun p => .call p.1)).map (·.1) = order.map (fun p => .answer p.2) ∧
    s.after (order.map fun p => .call p.1) = t

abbrev Serving := Request × Wish × Except String (Numbered Snapshot)

def Serving.answered (p : Serving) : Request × Answer :=
  (p.1, p.1.answerTo (p.2.2.map (·.value)))

/-- Requests with their answers, split into those with invalid arguments and the others. -/
structure Parted (rs : List Request) (as : List Answer) (qs : List (Request × Answer))
    (ps : List Serving) : Prop where
  length : as.length = rs.length
  refused : ∀ q ∈ qs, q.1.wish? = none ∧ q.2 = q.1.answerTo (.error "")
  served : ∀ p ∈ ps, p.1.wish? = some p.2.1
  all : (qs ++ ps.map Serving.answered).Perm (rs.zip as)

variable {s t u : Session} {r : Request} {rs : List Request} {turns : List Nat} {a : Answer}
  {as : List Answer} {ds : List (Caller Snapshot)} {order qs : List (Request × Answer)}
  {ps : List Serving} {w : Wish}

theorem InTurn.cons (h : s.step (.call r) = (.answer a, u)) (ht : InTurn u order t) :
    InTurn s ((r, a) :: order) t := by
  obtain ⟨hrun, hafter⟩ := ht
  have hu : (s.step (.call r)).2 = u := by rw [h]
  refine ⟨?_, ?_⟩
  · change (s.step (.call r)).1 :: ((s.step (.call r)).2.run _).map (·.1) = _
    rw [hu, hrun, h]
    rfl
  · change (s.step (.call r)).2.after _ = t
    rw [hu, hafter]

theorem step_of_refused (hr : r.wish? = none) (x : Except String Snapshot) :
    s.step (.call r) = (.answer (r.answerTo x), s) := by
  change (Output.answer (s.answer s.service.current r).1, (s.answer s.service.current r).2) = _
  unfold answer Request.answerTo
  unfold Request.wish? at hr
  cases h : Call.read r.tool r.arguments with
  | ok c =>
    rw [h] at hr
    exact absurd hr (by simp)
  | error ps => rfl

theorem step_of_wish? (hr : r.wish? = some w) : s.step (.call r) =
    (.answer (r.answerTo (s.service.serve (fun _ => s.outcome) w).1),
      { s with service := (s.service.serve (fun _ => s.outcome) w).2 }) := by
  rw [← Service.serveFrom_current]
  change (Output.answer (s.answer s.service.current r).1, (s.answer s.service.current r).2) = _
  unfold answer Request.answerTo
  unfold Request.wish? at hr
  cases h : Call.read r.tool r.arguments with
  | error ps =>
    rw [h] at hr
    exact absurd hr (by simp)
  | ok c =>
    rw [h] at hr
    obtain rfl := Option.some.inj hr
    rfl

/-- Requests with invalid arguments change nothing, so they may come first. -/
theorem InTurn.refused (ht : InTurn s order t)
    (h : ∀ q ∈ qs, q.1.wish? = none ∧ q.2 = q.1.answerTo (.error "")) :
    InTurn s (qs ++ order) t := by
  induction qs with
  | nil => exact ht
  | cons q qs ih =>
    obtain ⟨hr, hq⟩ := h q List.mem_cons_self
    obtain ⟨r, a⟩ := q
    obtain rfl : a = r.answerTo (.error "") := hq
    exact (ih fun q hq => h q (List.mem_cons_of_mem _ hq)).cons (step_of_refused hr _)

theorem InTurn.served {sv : Service Snapshot} (h : ∀ p ∈ ps, p.1.wish? = some p.2.1)
    (hturns : s.service.inTurn (fun _ => s.outcome) (ps.map (·.2.1)) =
      (ps.map fun p => p.2.2.map (·.value), sv)) :
    InTurn s (ps.map Serving.answered) { s with service := sv } := by
  induction ps generalizing s with
  | nil =>
    obtain ⟨-, rfl⟩ := Prod.mk.inj hturns
    exact ⟨rfl, rfl⟩
  | cons p ps ih =>
    obtain ⟨r, w, x⟩ := p
    have hr : r.wish? = some w := h _ List.mem_cons_self
    rw [List.map_cons, Service.inTurn_cons] at hturns
    obtain ⟨hlist, hlast⟩ := Prod.mk.inj hturns
    obtain ⟨hx, hrest⟩ := List.cons.inj hlist
    have hstep := step_of_wish? (s := s) hr
    rw [hx] at hstep
    exact (ih (fun p hp => h p (List.mem_cons_of_mem _ hp)) (Prod.ext hrest hlast)).cons hstep

theorem Answered.parted (h : Answered rs ds as) :
    ∃ qs ps, Parted rs as qs ps ∧ ds.filterMap Caller.told? = ps.map (·.2) := by
  induction h with
  | nil => exact ⟨[], [], ⟨rfl, by simp, by simp, .nil⟩, rfl⟩
  | @refused r rs ds as problems h _ ih =>
    obtain ⟨qs, ps, ih, htold⟩ := ih
    refine ⟨(r, .error (.arguments problems)) :: qs, ps, ?_, htold⟩
    refine ⟨congrArg Nat.succ ih.length, ?_, ih.served, ih.all.cons _⟩
    intro q hq
    rcases List.mem_cons.mp hq with rfl | hq
    · simp only [Request.wish?, Request.answerTo, h, and_self]
    · exact ih.refused q hq
  | @served r rs ds as c x h _ ih =>
    obtain ⟨qs, ps, ih, htold⟩ := ih
    refine ⟨qs, (r, c.wish, x) :: ps, ⟨congrArg Nat.succ ih.length, ih.refused, ?_, ?_⟩, ?_⟩
    · intro p hp
      rcases List.mem_cons.mp hp with rfl | hp
      · simp only [Request.wish?, h]
      · exact ih.served p hp
    · have hanswer : Serving.answered (r, c.wish, x) = (r, c.answer (x.map (·.value))) := by
        simp only [Serving.answered, Request.answerTo, h]
      rw [List.map_cons, hanswer]
      exact List.perm_middle.trans (ih.all.cons _)
    · rw [List.map_cons, ← htold]
      rfl

theorem Answered.all_served (h : Answered rs ds as) : ∀ d ∈ ds, ∃ x, d.stage = .served x := by
  induction h with
  | nil => exact fun d hd => absurd hd List.not_mem_nil
  | refused _ _ ih => exact ih
  | served _ _ ih =>
    intro d hd
    rcases List.mem_cons.mp hd with rfl | hd
    · exact ⟨_, rfl⟩
    · exact ih d hd

/-- When all callers are served, all requests have answers. -/
theorem exists_answered (hw : ds.map (·.wish) = rs.filterMap Request.wish?)
    (hd : ∀ d ∈ ds, ∃ x, d.stage = .served x) : ∃ as, Answered rs ds as := by
  induction rs generalizing ds with
  | nil =>
    rw [List.filterMap_nil, List.map_eq_nil_iff] at hw
    exact ⟨[], hw ▸ .nil⟩
  | cons r rs ih =>
    cases hr : Call.read r.tool r.arguments with
    | error ps =>
      have hnone : r.wish? = none := by simp only [Request.wish?, hr]
      rw [List.filterMap_cons, hnone] at hw
      obtain ⟨as, has⟩ := ih hw hd
      exact ⟨_, .refused hr has⟩
    | ok c =>
      have hsome : r.wish? = some c.wish := by simp only [Request.wish?, hr]
      rw [List.filterMap_cons, hsome] at hw
      obtain ⟨⟨v, st⟩, ds', rfl, rfl, hrest⟩ := List.map_eq_cons_iff.mp hw
      obtain ⟨x, hx⟩ := hd _ List.mem_cons_self
      obtain ⟨as, has⟩ := ih hrest fun d hd' => hd d (List.mem_cons_of_mem _ hd')
      obtain rfl : st = .served x := hx
      exact ⟨_, .served hr has⟩

theorem crowdAfter_append (turns more : List Nat) : s.crowdAfter rs (turns ++ more) =
    (s.crowdAfter rs turns).run (fun _ => s.outcome) (more.map .advance) := by
  rw [crowdAfter, List.map_append]
  exact List.foldl_append

/-- After any turns, all requests can be answered. -/
theorem exists_ends (s : Session) (rs : List Request) (turns : List Nat) :
    ∃ more as t, s.Ends rs (turns ++ more) as t := by
  have hstart : Crowd.Serial (fun _ => s.outcome) s.service (s.crowd rs) none s.service [] :=
    .start _ _
  obtain ⟨inside, t, order, h⟩ := hstart.run turns
  obtain ⟨more, hmore⟩ := h.exists_end
  have hwishes : (s.crowdAfter rs (turns ++ more)).callers.map (·.wish) =
      rs.filterMap Request.wish? :=
    (Crowd.wishes_run _ _ _).trans (Crowd.wishes_gather _ _)
  have hserved := Crowd.served_of_left hmore
  rw [← crowdAfter, ← crowdAfter_append] at hserved
  obtain ⟨as, has⟩ := exists_answered hwishes hserved
  exact ⟨more, as, _, has, rfl⟩

/-- Requests can be served in order after all have arrived. -/
theorem exists_turns_answers (s : Session) (door : Option (Numbered Snapshot))
    (rs : List Request) (xs : List (Caller Snapshot)) :
    ∃ (turns : List Nat) (ds : List (Caller Snapshot)),
      Crowd.run (fun _ => s.outcome)
          { service := s.service
            callers := xs ++ (rs.filterMap Request.wish?).map (Crowd.atDoor door) }
          (turns.map .advance) =
        { service := (s.answers door rs).2.service, callers := xs ++ ds } ∧
      Answered rs ds (s.answers door rs).1 := by
  induction rs generalizing s xs with
  | nil => exact ⟨[], [], rfl, .nil⟩
  | cons r rs ih =>
    have hnext : s.answers door (r :: rs) = ((s.answer door r).1 ::
        ((s.answer door r).2.answers door rs).1, ((s.answer door r).2.answers door rs).2) := rfl
    cases hr : Call.read r.tool r.arguments with
    | error ps =>
      have hnone : r.wish? = none := by simp only [Request.wish?, hr]
      have hanswer : s.answer door r = (.error (.arguments ps), s) := by rw [answer, hr]
      obtain ⟨turns, ds, hturns, hds⟩ := ih s xs
      rw [hnext, hanswer, List.filterMap_cons, hnone]
      exact ⟨turns, ds, hturns, .refused hr hds⟩
    | ok c =>
      have hsome : r.wish? = some c.wish := by simp only [Request.wish?, hr]
      let u := { s with service := (s.service.serveFrom (fun _ => s.outcome) door c.wish).2 }
      have hanswer : s.answer door r =
          (c.answer (s.service.serveFrom (fun _ => s.outcome) door c.wish).1, u) := by
        rw [answer, hr]
        rfl
      obtain ⟨first, x, hfirst, hx⟩ : ∃ (turns : List Nat) (x : Except String (Numbered Snapshot)),
          Crowd.run (fun _ => s.outcome) _ (turns.map .advance) = _ ∧ _ :=
        Crowd.exists_turns_served s.service door c.wish xs
          ((rs.filterMap Request.wish?).map (Crowd.atDoor door))
      obtain ⟨turns, ds, hturns, hds⟩ := ih u (xs ++ [⟨c.wish, .served x⟩])
      rw [List.append_assoc, List.append_assoc] at hturns
      rw [hnext, hanswer]
      -- the turns of this caller leave the later ones where they are
      refine ⟨first ++ turns, ⟨c.wish, .served x⟩ :: ds, ?_, ?_⟩
      · rw [List.filterMap_cons, hsome, List.map_append]
        refine List.foldl_append.trans ?_
        exact (congrArg (Crowd.run _ · _) hfirst).trans hturns
      · change Answered _ _ (c.answer _ :: _)
        rw [← hx]
        exact .served hr hds

theorem ends_answers (s : Session) (rs : List Request) : ∃ turns,
    s.Ends rs turns (s.answers s.service.current rs).1 (s.answers s.service.current rs).2 := by
  obtain ⟨first, hfirst⟩ : ∃ turns : List Nat,
      Crowd.run (fun _ => s.outcome) (s.crowd rs) (turns.map .advance) = _ :=
    Crowd.exists_turns_door s.service (rs.filterMap Request.wish?) []
  obtain ⟨turns, ds, hturns, hds⟩ := s.exists_turns_answers s.service.current rs []
  have hlast : s.crowdAfter rs (first ++ turns) =
      { service := (s.answers s.service.current rs).2.service, callers := ds } := by
    rw [crowdAfter_append, crowdAfter, hfirst]
    exact hturns
  refine ⟨first ++ turns, ?_, ?_⟩
  · rw [hlast]
    exact hds
  · rw [hlast, answers_session]

/-- The callers got what they would have got one after the other in some order. -/
theorem Ends.exists_parted (h : s.Ends rs turns as t) : ∃ qs ps, Parted rs as qs ps ∧
    s.service.inTurn (fun _ => s.outcome) (ps.map (·.2.1)) =
      (ps.map fun p => p.2.2.map (·.value), t.service) := by
  obtain ⟨qs, ps, hparted, htold⟩ := h.answered.parted
  obtain ⟨order, horder, hturns⟩ :=
    Crowd.exists_order (c := s.crowdAfter rs turns) rfl h.answered.all_served
  rw [Crowd.told, htold] at horder
  obtain ⟨ps', hps', rfl⟩ := Lists.exists_perm_of_map_perm horder
  refine ⟨qs, ps', { hparted with served := ?_, all := ?_ }, ?_⟩
  · exact fun p hp => hparted.served p (hps'.subset hp)
  · exact ((hps'.map _).append_left qs).trans hparted.all
  · rw [List.map_map, List.map_map] at hturns
    rw [h.session]
    exact hturns

theorem Ends.in_turn (h : s.Ends rs turns as t) : as.length = rs.length ∧
    ∃ order : List (Request × Answer), order.Perm (rs.zip as) ∧ s.InTurn order t := by
  obtain ⟨qs, ps, hparted, hturns⟩ := h.exists_parted
  have ht : t = { s with service := t.service } := by
    rw [h.session]
  refine ⟨hparted.length, _, hparted.all, ?_⟩
  rw [ht]
  exact (InTurn.served hparted.served hturns).refused hparted.refused

theorem wish?_of_asks (h : r.Asks) : r.wish? = some .current := by
  obtain ⟨ht, c, hc⟩ := h
  rw [Request.wish?, hc, ← Call.wish_of_read hc ht]

/-- Where all requests ask for help, every caller takes what is current in its turn. -/
theorem Ends.of_asks (h : s.Ends rs turns as t) (hrs : ∀ r ∈ rs, r.Asks) :
    ∃ ws : List Wish, (∀ w ∈ ws, w = .current) ∧ ws.length = rs.length ∧
      t.service = s.service.serveAll s.outcome none ws ∧
      ∀ a ∈ as, ∃ (c : Call), ∃ x ∈ (s.service.inTurn (fun _ => s.outcome) ws).1,
        a = c.answer x := by
  obtain ⟨qs, ps, hparted, hturns⟩ := h.exists_parted
  have hmem : ∀ q ∈ qs ++ ps.map Serving.answered, q.1.Asks := fun q hq =>
    hrs q.1 (List.of_mem_zip (hparted.all.subset hq)).1
  -- none of the requests has invalid arguments
  have hnone : qs = [] := by
    rw [List.eq_nil_iff_forall_not_mem]
    intro q hq
    have hasks := wish?_of_asks (hmem q (List.mem_append_left _ hq))
    exact absurd (hasks.symm.trans (hparted.refused q hq).1) (by simp)
  subst hnone
  have hall : (ps.map Serving.answered).Perm (rs.zip as) := hparted.all
  refine ⟨ps.map (·.2.1), ?_, ?_, ?_, ?_⟩
  · intro w hw
    obtain ⟨p, hp, rfl⟩ := List.mem_map.mp hw
    have hasks := wish?_of_asks (hmem _ (List.mem_map_of_mem hp))
    exact Option.some.inj ((hparted.served p hp).symm.trans hasks)
  · have hlength := hall.length_eq
    rw [List.length_map, List.length_zip, hparted.length, Nat.min_self] at hlength
    rw [List.length_map, hlength]
  · rw [← Service.inTurn_service, hturns]
  · intro a ha
    rw [← List.map_snd_zip (Nat.le_of_eq hparted.length)] at ha
    obtain ⟨q, hq, rfl⟩ := List.mem_map.mp ha
    obtain ⟨p, hp, rfl⟩ := List.mem_map.mp (hall.mem_iff.mpr hq)
    obtain ⟨-, c, hc⟩ := hmem _ (List.mem_map_of_mem hp)
    refine ⟨c, p.2.2.map (·.value), ?_, ?_⟩
    · rw [hturns]
      exact List.mem_map_of_mem hp
    · change p.1.answerTo _ = _
      rw [Request.answerTo, show Call.read p.1.tool p.1.arguments = .ok c from hc]

theorem Ends.eq_of_warm (h : s.Ends rs turns as t) (hrs : ∀ r ∈ rs, r.Asks)
    (hwarm : s.snapshot? ≠ none) : t = s := by
  obtain ⟨ws, hws, -, hservice, -⟩ := h.of_asks hrs
  have hsome : s.service.current.isSome = true := by
    rw [← Option.isSome_map, Option.isSome_iff_ne_none]
    exact hwarm
  have hdue : Wish.dueAll s.outcome.isOk s.service.current.isSome ws = 0 := by
    rw [Wish.dueAll_current hws, hsome, if_pos rfl]
  rw [Service.serveAll_of_due_eq_zero (by simp) hdue] at hservice
  rw [h.session] at hservice ⊢
  exact congrArg (fun sv => { s with service := sv }) hservice

theorem Ends.loads_of_cold (h : s.Ends rs turns as t) (hrs : ∀ r ∈ rs, r.Asks) (hne : rs ≠ [])
    (hcold : s.snapshot? = none) (hok : s.outcome.isOk = true) :
    t.service.loads = s.service.loads + 1 := by
  obtain ⟨ws, hws, hlength, hservice, -⟩ := h.of_asks hrs
  have hnone : s.service.current = none := Option.map_eq_none_iff.mp hcold
  have hpos : 0 < rs.length := List.length_pos_iff.mpr hne
  rw [hservice, Service.serveAll_loads (by simp), Wish.dueAll_current hws, hnone, hok, hlength,
    Nat.min_eq_left hpos]
  rfl

/-- Every caller whose load fails is told so. -/
theorem Ends.of_failing {reason : String} (h : s.Ends rs turns as t) (hrs : ∀ r ∈ rs, r.Asks)
    (hcold : s.snapshot? = none) (herror : s.outcome = .error reason) :
    t.service.loads = s.service.loads + rs.length ∧
      ∀ a ∈ as, ∃ e, a = .ok e ∧ e.TellsLoadFailed := by
  obtain ⟨ws, hws, hlength, hservice, hanswers⟩ := h.of_asks hrs
  have hnone : s.service.current = none := Option.map_eq_none_iff.mp hcold
  rw [herror] at hservice hanswers
  refine ⟨?_, ?_⟩
  · rw [hservice, Service.serveAll_loads (by simp), Wish.dueAll_current hws, hnone, hlength]
    rfl
  · intro a ha
    obtain ⟨c, x, hx, rfl⟩ := hanswers a ha
    rw [Service.inTurn_error hnone x hx]
    exact ⟨_, rfl, Call.failure_tellsLoadFailed c.tool reason⟩

/-- What may come of concurrent requests in the session `s`. -/
structure Linearizable (s : Session) (rs : List Request) : Prop where
  ends : ∀ turns, ∃ more as t, s.Ends rs (turns ++ more) as t
  answers : ∃ turns,
    s.Ends rs turns (s.answers s.service.current rs).1 (s.answers s.service.current rs).2
  in_turn : ∀ {turns as t}, s.Ends rs turns as t → as.length = rs.length ∧
    ∃ order : List (Request × Answer), order.Perm (rs.zip as) ∧ s.InTurn order t
  warm : ∀ {turns as t}, s.Ends rs turns as t → (∀ r ∈ rs, r.Asks) → s.snapshot? ≠ none → t = s
  cold : ∀ {turns as t}, s.Ends rs turns as t → (∀ r ∈ rs, r.Asks) → rs ≠ [] →
    s.snapshot? = none → s.outcome.isOk = true → t.service.loads = s.service.loads + 1
  failing : ∀ {turns as t reason}, s.Ends rs turns as t → (∀ r ∈ rs, r.Asks) →
    s.snapshot? = none → s.outcome = .error reason →
    t.service.loads = s.service.loads + rs.length ∧ ∀ a ∈ as, ∃ e, a = .ok e ∧ e.TellsLoadFailed

/-- Concurrent requests are answered as if one after the other in some order. Requests for help
share one load, or none if there is a snapshot, and each has its own if loads fail. -/
theorem linearizable (s : Session) (rs : List Request) : s.Linearizable rs where
  ends := s.exists_ends rs
  answers := s.ends_answers rs
  in_turn := Ends.in_turn
  warm := Ends.eq_of_warm
  cold := Ends.loads_of_cold
  failing := Ends.of_failing

/-- Two concurrent requests without a snapshot share one load. -/
theorem linearizable_twoHelps :
    let s := opened emptyHost []
    let rs : List Request := [⟨.help, []⟩, ⟨.help, [("query", .str "all")]⟩]
    (∀ r ∈ rs, r.Asks) ∧ ∃ turns as t, s.Ends rs turns as t ∧ t.service.loads = 1 := by
  intro s rs
  have hrs : ∀ r ∈ rs, r.Asks := by
    intro r hr
    rcases List.mem_cons.mp hr with rfl | hr
    · exact ⟨by decide, _, rfl⟩
    · obtain rfl := List.mem_singleton.mp hr
      exact ⟨by decide, _, rfl⟩
  obtain ⟨turns, as, t, h⟩ := (linearizable s rs).ends []
  exact ⟨hrs, turns, as, t, h, (linearizable s rs).cold h hrs (by simp [rs]) rfl rfl⟩

end Session

end ScriptHelp
