import ScriptHelp.CommandLine.Launch
import ScriptHelp.Proofs.Lists
import ScriptHelp.Proofs.OptionSettings

namespace ScriptHelp

theorem Environment.lookup_set (e : Environment) (name v k : String) :
    (e.set name (some v)).lookup k = if k = name then some v else e.lookup k := by
  rw [Environment.set, Lists.lookup_cons, Lists.lookup_filter_ne]
  by_cases h : k = name
  · rw [if_pos h, if_pos h]
  · rw [if_neg h, if_neg h, if_neg h]

namespace CommandLine

variable {c : CommandLine}

theorem environment_of_cwd {d : String} (hcwd : c.cwd = some d) (hd : d ≠ "") (e : Environment) :
    c.environment e = e.set Config.cwdVariable (some d) := by
  unfold environment
  split
  · rename_i hnone
    cases hcwd.symm.trans hnone
  · rename_i hempty
    exact absurd (Option.some.inj (hcwd.symm.trans hempty)) hd
  · rename_i d' _ hsome
    rw [Option.some.inj (hcwd.symm.trans hsome)]

theorem environment_of_no_cwd (h : c.cwd.getD "" = "") (e : Environment) :
    c.environment e = e := by
  unfold environment
  split
  · rfl
  · rfl
  · rename_i d hd hsome
    rw [hsome] at h
    exact absurd h hd

theorem lookup_environment_of_ne {k : String} (hk : k ≠ Config.cwdVariable) (e : Environment) :
    (c.environment e).lookup k = e.lookup k := by
  unfold environment
  split
  · rfl
  · rfl
  · rw [Environment.lookup_set, if_neg hk]

theorem address?_eq_some_iff {address : String × Int} : c.address? = some address ↔
    (c.transport = .http ∨ c.transport = .sse) ∧ address = (c.host, c.port) := by
  unfold address?
  cases c.transport <;> simp [eq_comm]

end CommandLine

namespace Launch

open CommandLine

variable {args : List String} {e : Environment} {ending : Run.Ending} {c : CommandLine} {s : Stop}
  {ss : List Setting}

theorem outcome_of_stop (h : CommandLine.read args = .error s) (e : Environment)
    (ending : Run.Ending) : outcome args e ending =
      (.error (.exit s.code),
        { environment := e, output := s.output, errorOutput := s.errorOutput }) := by
  unfold outcome program commandLine
  rw [h]
  change (Except.error (Break.exit s.code), ({
    environment := e
    output := "" ++ s.output
    errorOutput := "" ++ s.errorOutput } : Launch)) = _
  rw [String.empty_append, String.empty_append]

/-- An interrupted run ends like a finished one. -/
theorem outcome_of_read (h : CommandLine.read args = .ok c) (e : Environment)
    (ending : Run.Ending) : outcome args e ending =
      (.ok (), { environment := c.environment e, runs := [c.run] }) := by
  unfold outcome program commandLine
  rw [h]
  cases ending <;> rfl

/-- The program exits without a run and prints the requested text or the error. -/
structure Stopped (args : List String) (e : Environment) (o : Except Break Unit × Launch) :
    Prop where
  exits : ∃ s : Stop, o = (.error (.exit s.code),
    { environment := e, runs := [], output := s.output, errorOutput := s.errorOutput })
  code_zero : Asks args → exitCode? o.1 = some 0
  code_two : ¬Asks args → exitCode? o.1 = some 2

/-- The run has the transport and address given last, or the default ones. -/
structure Follows (ss : List Setting) (r : Run) : Prop where
  quiet : r.banner = false
  transport : r.transport.name = (lastGiven? ss .transport).getD "stdio"
  listens : r.address?.isSome ↔ r.transport = .http ∨ r.transport = .sse
  host : ∀ address ∈ r.address?, address.1 = (lastGiven? ss .host).getD "127.0.0.1"
  port : ∀ address ∈ r.address?,
    Number.readInteger ((lastGiven? ss .port).getD "8000") = .ok address.2

structure Served (ss : List Setting) (e : Environment) (o : Except Break Unit × Launch) :
    Prop where
  returns : o.1 = .ok ()
  silent : o.2.output = "" ∧ o.2.errorOutput = ""
  runs : ∃ r, o.2.runs = [r] ∧ Follows ss r
  directory : ∀ d, lastGiven? ss .cwd = some d → d ≠ "" →
    o.2.environment.lookup Config.cwdVariable = some d
  unchanged : (lastGiven? ss .cwd).getD "" = "" → o.2.environment = e
  others : ∀ k ≠ Config.cwdVariable, o.2.environment.lookup k = e.lookup k

theorem stopped_of_read (h : CommandLine.read args = .error s) :
    Stopped args e (outcome args e ending) := by
  rw [outcome_of_stop h]
  have hcode := code_of_read h
  refine ⟨⟨s, rfl⟩, fun hasks => ?_, fun hasks => ?_⟩
  · obtain ⟨hzero, -⟩ | ⟨-, hnot⟩ := hcode
    · exact congrArg some hzero
    · exact absurd hasks hnot
  · obtain ⟨-, hask⟩ | ⟨htwo, -⟩ := hcode
    · exact absurd hask hasks
    · exact congrArg some htwo

theorem follows_run (h : Holds c ss) : Follows ss c.run := by
  have haddress : ∀ address ∈ c.run.address?, address = (c.host, c.port) :=
    fun address hmem => (address?_eq_some_iff.mp hmem).2
  refine ⟨rfl, h.transport, ?_, fun address hmem => ?_, fun address hmem => ?_⟩
  · rw [Option.isSome_iff_exists]
    exact ⟨fun ⟨_, hsome⟩ => (address?_eq_some_iff.mp hsome).1,
      fun ht => ⟨_, address?_eq_some_iff.mpr ⟨ht, rfl⟩⟩⟩
  · rw [haddress address hmem, h.host]
  · rw [haddress address hmem, h.port]

theorem served_of_holds (h : Holds c ss) (hread : CommandLine.read args = .ok c) :
    Served ss e (outcome args e ending) := by
  rw [outcome_of_read hread]
  refine ⟨rfl, ⟨rfl, rfl⟩, ⟨c.run, rfl, follows_run h⟩, fun d hd hne => ?_, fun hempty => ?_,
    fun k hk => lookup_environment_of_ne hk e⟩
  · show (c.environment e).lookup Config.cwdVariable = some d
    rw [environment_of_cwd (h.cwd.trans hd) hne, Environment.lookup_set, if_pos rfl]
  · exact environment_of_no_cwd (h.cwd ▸ hempty) e

theorem outcome_reordered {ss' : List Setting} (horder : Reordered ss ss') (e : Environment)
    (ending : Run.Ending) :
    outcome (ss'.flatMap Setting.arguments) e ending =
      outcome (ss.flatMap Setting.arguments) e ending := by
  unfold outcome program commandLine
  rw [read_reordered horder]

/-- A row of settings is served, the same in every order that keeps the order within each option.
Any other command line stops the program before anything has changed. -/
theorem outcome_served_or_stopped (args : List String) (e : Environment) (ending : Run.Ending) :
    ((∃ ss : List Setting, args = ss.flatMap Setting.arguments) ∧
      ∀ ss : List Setting, args = ss.flatMap Setting.arguments →
        Served ss e (outcome args e ending) ∧
        (∀ ss' : List Setting, Reordered ss ss' →
          outcome (ss'.flatMap Setting.arguments) e ending = outcome args e ending) ∧
        ((ss.map Setting.option).Nodup → ∀ ss' : List Setting, ss'.Perm ss →
          outcome (ss'.flatMap Setting.arguments) e ending = outcome args e ending)) ∨
    ((∀ ss : List Setting, args ≠ ss.flatMap Setting.arguments) ∧
      Stopped args e (outcome args e ending)) := by
  cases hread : CommandLine.read args with
  | ok c =>
    obtain ⟨ss₀, hargs₀, -⟩ := read_eq_ok_iff.mp hread
    refine .inl ⟨⟨ss₀, hargs₀⟩, ?_⟩
    rintro ss rfl
    obtain ⟨c', hsettings, hholds⟩ := exists_read_settings ss
    refine ⟨served_of_holds hholds hsettings, fun ss' horder => ?_, fun hdistinct ss' hperm => ?_⟩
    · exact outcome_reordered horder e ending
    · exact outcome_reordered (reordered_of_perm hdistinct hperm) e ending
  | error s =>
    refine .inr ⟨?_, stopped_of_read hread⟩
    rintro ss rfl
    obtain ⟨c, hsettings, -⟩ := exists_read_settings ss
    rw [hread] at hsettings
    cases hsettings

example : outcome ["--tran", "stdio", "--port=7", "--tr=sse", "--cwd", "bot"] [] .interrupted =
    (.ok (), {
      environment := [("BETTER_HELP_CWD", "bot")]
      runs := [{ transport := .sse, address? := some ("127.0.0.1", 7), banner := false }] }) := by
  rfl

end Launch

end ScriptHelp
