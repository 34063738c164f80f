import ScriptHelp.Proofs.Results
import ScriptHelp.Proofs.ScriptQueries
import ScriptHelp.Proofs.SearchTiers
import ScriptHelp.Proofs.SessionHistory

namespace ScriptHelp

namespace HelpData

theorem items_strings (ss : List String) (n : Nat) :
    Checked.items .string n (ss.map .str) = .ok ss := by
  induction ss generalizing n with
  | nil => rfl
  | cons s ss ih => rw [List.map_cons, Checked.items, ih]; rfl

/-- The unchecked data, with the reply even if it is null. -/
def parts (d : HelpData) : List (String × Json) :=
  [("action", .str d.action.name), ("reply", d.replyJson), ("entries", .ofStrings d.entries),
    ("summary", .obj d.summary)]

theorem read_parts (d : HelpData) : read d.parts = .ok d := by
  have haction : readAction (.str d.action.name) = .ok d.action := by
    rw [readAction, Action.named?_name]
  have hreply : Checked.orNull .string d.replyJson = .ok d.reply := by
    rw [replyJson]
    cases d.reply <;> rfl
  have hentries :
      Checked.list .string (orEmpty (.arr []) (.ofStrings d.entries)) = .ok d.entries := by
    cases h : d.entries with
    | nil => rfl
    | cons e es => exact items_strings (e :: es) 0
  have hsummary : Checked.fields (orEmpty (.obj []) (.obj d.summary)) = .ok d.summary := by
    cases d.summary <;> rfl
  -- every part is found under its own name
  change ((Checked.inside _ (readAction (.str d.action.name))).both
    ((Checked.inside _ (Checked.orNull .string d.replyJson)).both
      ((Checked.inside _ (Checked.list .string (orEmpty (.arr []) (.ofStrings d.entries)))).both
        (Checked.inside _ (Checked.fields (orEmpty (.obj []) (.obj d.summary))))))).map _ = _
  rw [haction, hreply, hentries, hsummary]
  rfl

end HelpData

namespace Envelope

/-- Success, with data that pass their own check and have a declared action. -/
def Succeeds (e : Envelope) : Prop :=
  ∃ d : HelpData, HelpData.read d.parts = .ok d ∧
    e.compact = .obj [("ok", .bool true), ("data", d.toJson)] ∧
    read [("ok", .bool true), ("data", d.toJson)] = .ok e ∧
    ∃ a ∈ Action.all, d.toJson.field? "action" = some (.str a.name)

def TellsLoadFailed (e : Envelope) : Prop :=
  ∃ fs, e.compact = .obj [("ok", .bool false), ("error", .obj fs)] ∧
    read [("ok", .bool false), ("error", .obj fs)] = .ok e ∧
    fs.lookup "code" = some (.str "load_failed")

end Envelope

namespace Responder

variable {r : Responder} {q m : String} {f : Pattern.Fault}

def searched? (r : Responder) (q : String) : Option String :=
  if Reserved q ∨ (r.scriptHelp? (nameAsked q)).isSome then none else some (Text.strip q)

theorem eq_strip_of_searched? {text : String} (h : r.searched? q = some text) :
    text = Text.strip q := by
  rw [searched?] at h
  split at h
  · cases h
  · exact (Option.some.inj h).symm

theorem searchReply_eq_error_iff : r.searchReply q = .error f ↔ r.index.Breaks q f := by
  rw [← Index.search_eq_error_iff, searchReply]
  exact bind_eq_error_iff fun found g => by cases found <;> simp [pure, Except.pure]

theorem respond_eq_error_iff : r.respond (some q) = .error f ↔
    ∃ text, r.searched? q = some text ∧ r.index.Breaks text f := by
  unfold searched?
  by_cases hq : Reserved q
  · -- the overview and the list of all commands do not search
    obtain ⟨reply, hreply⟩ := respond_of_reserved (r := r) hq
    simp [hq, hreply]
  · rw [respond_of_not_reserved hq]
    cases h : r.scriptHelp? (nameAsked q) with
    | some reply => simp
    | none => simp [hq, searchReply_eq_error_iff]

theorem catchAll_eq_error_iff : r.catchAll m = .error f ↔
    ∃ text, Address.remainder? r.names m = some text ∧ r.index.Breaks text f := by
  unfold catchAll
  cases Address.remainder? r.names m with
  | none => simp
  | some text =>
    simp only [Option.some.injEq, exists_eq_left', ← Index.search_eq_error_iff]
    exact bind_eq_error_iff fun found g => by simp [pure, Except.pure]

end Responder

namespace Call

variable {c : Call} {x : Snapshot} {f : Pattern.Fault}

/-- The text that a call searches for, if it leads to a search. -/
def searched? (x : Snapshot) : Call → Option String
  | .help query => x.responder.searched? (query.getD "")
  | .catchAll message => Address.remainder? x.responder.names (Text.normalize false message)
  | .reload => none

def Breaks (x : Snapshot) (c : Call) (f : Pattern.Fault) : Prop :=
  ∃ text, c.searched? x = some text ∧ x.index.Breaks text f

theorem data_eq_error_iff : c.data x = .error f ↔ c.Breaks x f := by
  cases c with
  | help query =>
    have hquery : x.responder.respond query = x.responder.respond (some (query.getD "")) := by
      cases query <;> rfl
    rw [data, hquery]
    exact (bind_eq_error_iff fun _ _ => by simp [pure, Except.pure]).trans
      Responder.respond_eq_error_iff
  | catchAll message =>
    rw [data]
    exact (bind_eq_error_iff fun _ _ => by simp [pure, Except.pure]).trans
      Responder.catchAll_eq_error_iff
  | reload => simp [data, Breaks, searched?]

theorem failure_tellsLoadFailed (t : Tool) (reason : String) :
    (failure t reason).TellsLoadFailed :=
  ⟨_, rfl, rfl, rfl⟩

theorem data_succeeds (d : HelpData) : d.envelope.Succeeds :=
  ⟨d, d.read_parts, rfl, rfl, d.action, Action.mem_all _, rfl⟩

theorem answer_succeeds_iff :
    (∃ e, c.answer (.ok x) = .ok e ∧ e.Succeeds) ↔ ∀ f, ¬ c.Breaks x f := by
  simp only [← data_eq_error_iff, answer]
  cases c.data x with
  | error f => simp
  | ok d => simpa using data_succeeds d

theorem answer_eq_error_iff {t : Tool} (ht : c.tool = t) :
    c.answer (.ok x) = .error (.search t f) ↔ c.Breaks x f := by
  subst ht
  rw [← data_eq_error_iff, answer]
  cases c.data x <;> simp

end Call

namespace Session

variable {s : Session} {door : Option (Numbered Snapshot)} {r : Request} {c : Call}

theorem answer_of_read (hc : Call.read r.tool r.arguments = .ok c) :
    (s.answer door r).1 = c.answer (s.serve door c.wish).1 := by
  unfold answer
  rw [hc]

/-- A valid call is answered by an envelope of a failed load, or with a snapshot by an envelope of
success iff it leads to no search that breaks; `door` is what the caller found on arrival. A search
gives a list iff it does not break. -/
theorem answer_envelope (s : Session) (door : Option (Numbered Snapshot)) (r : Request) (c : Call)
    (hc : Call.read r.tool r.arguments = .ok c) :
    (∀ reason, (s.serve door c.wish).1 = .error reason →
      ∃ e, (s.answer door r).1 = .ok e ∧ e.TellsLoadFailed) ∧
    (∀ x, (s.serve door c.wish).1 = .ok x →
      ((∃ e, (s.answer door r).1 = .ok e ∧ e.Succeeds) ↔ ∀ f, ¬ c.Breaks x f) ∧
      ∀ f, (s.answer door r).1 = .error (.search r.tool f) ↔ c.Breaks x f) ∧
    ∀ (i : Index) (q : String), (∃ found, i.search q = .ok found) ↔ ∀ f, ¬ i.Breaks q f := by
  rw [answer_of_read hc]
  refine ⟨fun reason hload => ?_, fun x hx => ?_, fun i q => Index.search_eq_ok_iff⟩
  · rw [hload]
    exact ⟨_, rfl, Call.failure_tellsLoadFailed c.tool reason⟩
  · rw [hx]
    exact ⟨Call.answer_succeeds_iff, fun f => Call.answer_eq_error_iff (Call.tool_of_read hc)⟩

/-- A query with an open parenthesis is an invalid pattern, and the call is answered. -/
theorem answer_envelope_parenthesis :
    let r : Request := ⟨.help, [("query", .str "p(ng")]⟩
    Call.read r.tool r.arguments = .ok (.help (some "p(ng")) ∧
      ∃ e, ((opened emptyHost []).answer none r).1 = .ok e ∧ e.Succeeds := by
  intro r
  have hc : Call.read r.tool r.arguments = .ok (.help (some "p(ng")) := rfl
  obtain ⟨-, hserved, -⟩ := answer_envelope (opened emptyHost []) none r _ hc
  obtain ⟨hsucceeds, -⟩ := hserved (.load emptyHost []) rfl
  refine ⟨hc, hsucceeds.mpr fun f hbreaks => ?_⟩
  obtain ⟨text, htext, -, hf, hne⟩ := hbreaks
  obtain rfl : text = Text.strip "p(ng" := Responder.eq_strip_of_searched? htext
  have hlegible : Index.Legible 9 (Text.strip "p(ng") := by decide +kernel
  exact hne (hlegible f hf)

/-- A repetition count out of range breaks the search, and the call has no envelope. -/
theorem not_answer_envelope_repetition :
    let r : Request := ⟨.help, [("query", .str "x\x7b4294967295\x7d")]⟩
    Call.read r.tool r.arguments = .ok (.help (some "x\x7b4294967295\x7d")) ∧
      ((opened emptyHost []).step (.call r)).1 =
        .answer (.error (.search .help .repetitionTooLarge)) := by
  intro r
  have hc : Call.read r.tool r.arguments = .ok (.help (some "x\x7b4294967295\x7d")) := rfl
  refine ⟨hc, (answer_of_cold rfl hc).trans (congrArg Output.answer ?_)⟩
  refine (Call.answer_eq_error_iff rfl).mpr ⟨Text.strip "x\x7b4294967295\x7d", ?_, ?_⟩
  · decide +kernel
  · exact ⟨by decide +kernel, by decide +kernel, by decide⟩

end Session

end ScriptHelp
