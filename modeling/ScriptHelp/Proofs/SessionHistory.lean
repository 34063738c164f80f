import Mathlib.Data.List.Induction
import ScriptHelp.Proofs.SessionSteps

namespace ScriptHelp

namespace Session

def opened (host : Host) (e : Environment) : Session := { host, environment := e }

def after (s : Session) (sts : List Step) : Session := sts.foldl (fun s st => (s.step st).2) s

/-- No load succeeds in these steps, and none of them resets the service. -/
def Still (s : Session) : List Step → Prop
  | [] => True
  | st :: sts => ¬ s.Renews st ∧ st ≠ .reset ∧ (s.step st).2.Still sts

variable {s t : Session} {st : Step} {sts later : List Step} {host : Host} {e : Environment}

theorem after_append : s.after (sts ++ later) = (s.after sts).after later := List.foldl_append

theorem after_concat : s.after (sts ++ [st]) = ((s.after sts).step st).2 := after_append

theorem current_after (h : s.Still later) :
    (s.after later).service.current = s.service.current := by
  induction later generalizing s with
  | nil => rfl
  | cons st later ih =>
    obtain ⟨hst, hreset, hlater⟩ := h
    exact (ih hlater).trans (current_step hst hreset)

theorem snapshot?_after (h : s.Still later) : (s.after later).snapshot? = s.snapshot? := by
  rw [snapshot?, Service.value?, current_after h]
  rfl

theorem split_concat {before : List Step} {m : Step} : sts ++ [m] = before ++ st :: later ↔
    (later = [] ∧ before = sts ∧ st = m) ∨
      ∃ rest, later = rest ++ [m] ∧ sts = before ++ st :: rest := by
  constructor
  · intro h
    obtain rfl | ⟨rest, m', rfl⟩ := List.eq_nil_or_concat later
    · obtain ⟨hsts, hm⟩ := List.append_inj' h rfl
      exact .inl ⟨rfl, hsts.symm, (List.cons.inj hm).1.symm⟩
    · rw [List.concat_eq_append, ← List.cons_append, ← List.append_assoc] at h
      obtain ⟨hsts, hm⟩ := List.append_inj' h rfl
      exact .inr ⟨rest, by rw [List.concat_eq_append, hm], hsts⟩
  · rintro (⟨rfl, rfl, rfl⟩ | ⟨rest, rfl, rfl⟩)
    · rfl
    · simp

/-- There is a snapshot iff a load has succeeded and no reset came after it. -/
theorem snapshot?_eq_none_iff (hs : s.snapshot? = none) : (s.after sts).snapshot? = none ↔
    ∀ before st later, sts = before ++ st :: later → (s.after before).Renews st →
      Step.reset ∈ later := by
  induction sts using List.reverseRecOn with
  | nil => simpa [after] using hs
  | append_singleton sts m ih =>
    rw [after_concat]
    -- the last step renews the snapshot, drops it or leaves it
    by_cases hrenews : (s.after sts).Renews m
    · rw [snapshot?_step hrenews]
      refine ⟨fun h => by simp at h, fun h => ?_⟩
      simpa using h sts m [] rfl hrenews
    · by_cases hreset : m = .reset
      · subst hreset
        refine ⟨fun _ before st later hsplit hst => ?_, fun _ => rfl⟩
        obtain ⟨-, rfl, rfl⟩ | ⟨rest, rfl, -⟩ := split_concat.mp hsplit
        · exact absurd hst hrenews
        · simp
      · have hkept : (((s.after sts).step m).2).snapshot? = (s.after sts).snapshot? := by
          rw [snapshot?, Service.value?, current_step hrenews hreset]
          rfl
        rw [hkept, ih]
        constructor
        · intro h before st later hsplit hst
          obtain ⟨-, rfl, rfl⟩ | ⟨rest, rfl, hsts⟩ := split_concat.mp hsplit
          · exact absurd hst hrenews
          · exact List.mem_append_left [m] (h before st rest hsts hst)
        · intro h before st later hsts hst
          have hmem := h before st (later ++ [m]) (split_concat.mpr (.inr ⟨later, rfl, hsts⟩)) hst
          rw [List.mem_append, List.mem_singleton] at hmem
          exact hmem.resolve_right (Ne.symm hreset)

theorem held_after (h : ∀ before rest, later = before ++ .hold :: rest →
    ((s.after before).step .hold).1 ≠ .done) : (s.after later).held = s.held := by
  induction later generalizing s with
  | nil => rfl
  | cons st later ih =>
    have hfirst : (s.step st).2.held = s.held := by
      by_cases hst : st = .hold
      · subst hst
        exact held_of_failure (h [] later rfl)
      · exact held_step hst
    rw [← hfirst]
    refine ih fun before rest hsplit => ?_
    exact h (st :: before) rest (by rw [hsplit, List.cons_append])

theorem Alike.run (h : Alike s t) (sts : List Step) :
    (s.run sts).map (·.1) = (t.run sts).map (·.1) := by
  induction sts generalizing s t with
  | nil => rfl
  | cons st sts ih =>
    obtain ⟨hfirst, hnext⟩ := h.step st
    change (s.step st).1 :: _ = (t.step st).1 :: _
    rw [hfirst]
    exact congrArg _ (ih hnext)

/-- How later steps affect the answers of a session. -/
structure Steady (s : Session) : Prop where
  stale : ∀ {x : Snapshot} {later : List Step} {r : Request},
    s.snapshot? = some x → s.Still later → r.tool ≠ .reload →
      ((s.after later).step (.call r)).1 = (s.step (.call r)).1 ∧
        (s.step (.call r)).1 = .answer (r.answerFrom x)
  stale_together : ∀ {x : Snapshot} {later : List Step} {rs : List Request} {i : Nat} {r : Request},
    s.snapshot? = some x → s.Still later → rs[i]? = some r → r.tool ≠ .reload →
      ∃ as, ((s.after later).step (.together rs)).1 = .answers as ∧ as[i]? = some (r.answerFrom x)
  /-- Without a snapshot a call is answered from a load as of now. -/
  cold : ∀ {r : Request} {c : Call}, s.snapshot? = none → Call.read r.tool r.arguments = .ok c →
    (s.step (.call r)).1 = .answer (c.answer s.outcome)
  /-- A call made while loads fail changes no later answer. -/
  in_vain : ∀ {r : Request} {reason : String} {later : List Step}, s.outcome = .error reason →
    ((s.step (.call r)).2.run later).map (·.1) = (s.run later).map (·.1)
  held_kept : ∀ {later : List Step} {q : Option String},
    (∀ before rest, later = before ++ .hold :: rest → ((s.after before).step .hold).1 ≠ .done) →
      ((s.after later).step (.askHeld q)).1 = (s.step (.askHeld q)).1
  loads : ∀ st, (s.step st).2.service.loads = s.service.loads + s.newLoads st
  refused : ∀ {r : Request} {ps : List Problem}, Call.read r.tool r.arguments = .error ps →
    s.step (.call r) = (.answer (.error (.arguments ps)), s)

/-- Where the snapshot after these steps comes from. -/
structure TellsLastLoad (host : Host) (e : Environment) (sts : List Step) : Prop where
  absent : ((opened host e).after sts).snapshot? = none ↔
    ∀ before st later, sts = before ++ st :: later → ((opened host e).after before).Renews st →
      Step.reset ∈ later
  newest : ∀ {before st later}, sts = before ++ st :: later →
    let s := (opened host e).after before
    s.Renews st → (s.step st).2.Still later →
      ((opened host e).after sts).snapshot? = some (.load s.host s.environment)
  steady : ((opened host e).after sts).Steady

theorem steady (s : Session) : s.Steady where
  stale hx hlater hr := by
    have hnow := answer_of_snapshot? hx hr
    have hthen := answer_of_snapshot? ((snapshot?_after hlater).trans hx) hr
    exact ⟨hthen.trans hnow.symm, hnow⟩
  stale_together hx hlater hi hr := by
    obtain ⟨y, hy, rfl⟩ := Option.map_eq_some_iff.mp hx
    refine ⟨_, rfl, ?_⟩
    rw [current_after hlater, hy]
    exact answers_of_door hi hr
  cold := answer_of_cold
  in_vain hs := (alike_call hs).run _
  held_kept {later q} hlater := by
    change (s.after later).askHeld q = s.askHeld q
    rw [askHeld, held_after hlater]
    rfl
  loads := loads_step s
  refused {r ps} hps := by
    change (Output.answer (s.answer s.service.current r).1, (s.answer s.service.current r).2) = _
    unfold answer
    rw [hps]

/-- Every answer comes from the last successful load, whatever has happened since. -/
theorem tells_last_load (host : Host) (e : Environment) (sts : List Step) :
    TellsLastLoad host e sts := by
  refine ⟨snapshot?_eq_none_iff rfl, ?_, steady _⟩
  intro before st later hsts s hst hlater
  subst hsts
  rw [after_append]
  exact (snapshot?_after hlater).trans (snapshot?_step hst)

def emptyHost : Host := { tree := .dir [], stack := ⟨9, 9, 9⟩ }

def askThenWrite : List Step :=
  [.call ⟨.help, []⟩,
    .write (Path.root.join "scripts/ping.py") (.file (Text.Utf8.encode "# hubot ping"))]

theorem tells_last_load_askThenWrite : TellsLastLoad emptyHost [] askThenWrite ∧
    ((opened emptyHost []).after askThenWrite).snapshot? = some (.load emptyHost []) := by
  have htells := tells_last_load emptyHost [] askThenWrite
  have hask : (opened emptyHost []).Renews (.call ⟨.help, []⟩) := ⟨rfl, by decide⟩
  refine ⟨htells, @TellsLastLoad.newest _ _ _ htells [] _ _ rfl hask ⟨?_, by simp, trivial⟩⟩
  intro hrenews
  exact absurd hrenews.2 (Nat.lt_irrefl 0)

end Session

end ScriptHelp
