import ScriptHelp.Proofs.CorpusMerge
import ScriptHelp.Reply.Responder

namespace ScriptHelp

theorem Text.part_of_intercalate {sep l : String} {ls : List String} (h : l ∈ ls) :
    l.toList <:+: (String.intercalate sep ls).toList := by
  rw [String.toList_intercalate]
  induction ls with
  | nil => cases h
  | cons m ls ih =>
    cases ls with
    | nil =>
      obtain rfl : l = m := by simpa using h
      simp
    | cons n ls =>
      rw [List.map_cons, List.map_cons, List.intercalate_cons_cons, List.append_assoc]
      rcases List.mem_cons.mp h with rfl | hl
      · exact List.infix_append [] _ _
      · have htail := List.suffix_append sep.toList
          (sep.toList.intercalate ((n :: ls).map String.toList))
        exact ((ih hl).trans htail.isInfix).trans (List.suffix_append _ _).isInfix

theorem Corpus.get?_of_mem {c : Corpus} {e : String × Record} (he : e ∈ c.entries) :
    c.get? e.1 = some e.2 := by
  obtain ⟨es, hes⟩ := c
  simp only [get?] at he ⊢
  induction es with
  | nil => cases he
  | cons f es ih =>
    obtain ⟨hnot, hes⟩ := List.nodup_cons.mp hes
    rw [Lists.lookup_cons]
    rcases List.mem_cons.mp he with rfl | htail
    · rw [if_pos rfl]
    · have hne : e.1 ≠ f.1 := fun h => hnot (List.mem_map.mpr ⟨e, htail, h⟩)
      rw [if_neg hne, ih hes htail]

namespace Responder

variable {r : Responder} {e : String × Record} {q : String}

def nameAsked (q : String) : String := Text.lower (Text.strip q)

/-- Queries that name no script: the empty one, `me` alone or before other words, and `all`. -/
def Reserved (q : String) : Prop :=
  Text.strip q = "" ∨ Text.strip q = "me" ∨ "me ".toList <+: (Text.strip q).toList ∨
    nameAsked q = "all"

instance : DecidablePred Reserved := fun q =>
  inferInstanceAs (Decidable (Text.strip q = "" ∨ Text.strip q = "me" ∨
    "me ".toList <+: (Text.strip q).toList ∨ nameAsked q = "all"))

theorem reserved_iff :
    Reserved q ↔ asksOverview (Text.strip q) = true ∨ nameAsked q = "all" := by
  simp only [Reserved, asksOverview, Bool.or_eq_true, decide_eq_true_eq,
    List.isPrefixOf_iff_prefix, or_assoc]

theorem respond_of_reserved (hq : Reserved q) : ∃ reply, r.respond (some q) = .ok reply := by
  unfold respond
  by_cases h : asksOverview (Text.strip q) = true
  · exact ⟨r.overview, by simp [h]⟩
  · have hall : Text.lower (Text.strip q) = "all" := (reserved_iff.mp hq).resolve_left h
    exact ⟨r.allCommands, by simp [h, hall]⟩

/-- A query that is not reserved gets the help of the script of this name if there is one, else a
search. -/
theorem respond_of_not_reserved (hq : ¬ Reserved q) : r.respond (some q) =
    (r.scriptHelp? (nameAsked q)).elim (r.searchReply (Text.strip q)) .ok := by
  obtain ⟨hoverview, hall⟩ := not_or.mp (mt reserved_iff.mpr hq)
  unfold nameAsked at hall ⊢
  unfold respond
  simp only [Option.getD_some, hoverview, hall, Bool.false_eq_true, if_false]
  cases r.scriptHelp? (Text.lower (Text.strip q)) <;> rfl

theorem kind_searchReply {reply : Reply} (h : r.searchReply q = .ok reply) :
    reply.kind = .search ∨ reply.kind = .notFound := by
  unfold searchReply at h
  cases hs : r.index.search q with
  | error f =>
    rw [hs] at h
    cases h
  | ok found =>
    rw [hs] at h
    cases found with
    | nil => exact .inr (Except.ok.inj h ▸ rfl)
    | cons c cs => exact .inl (Except.ok.inj h ▸ rfl)

theorem searchReply_ne {reply : Reply} (h : reply.kind = .script) :
    r.searchReply q ≠ .ok reply := by
  intro hsearch
  rcases kind_searchReply hsearch with hk | hk <;> rw [h] at hk <;> cases hk

theorem mem_listed :
    e ∈ r.listed ↔ e ∈ r.corpus.entries ∧ e.1 ≠ helpScript ∧ e.2.commands ≠ [] := by
  simp [listed]

/-- The reply about a script that has commands. -/
theorem scriptHelp?_of_mem (he : e ∈ r.corpus.entries) (hc : e.2.commands ≠ []) :
    ∃ reply, r.scriptHelp? e.1 = some reply ∧ reply.kind = .script ∧
      reply.commands = r.rename (e.2.commands.mergeSort fun a b => decide (a ≤ b)) := by
  have hempty : e.2.commands.isEmpty = false := by simpa using hc
  simp only [scriptHelp?, Corpus.get?_of_mem he, hempty, Bool.false_eq_true, if_false]
  exact ⟨_, rfl, rfl, rfl⟩

theorem overview_shows (he : e ∈ r.listed) :
    (r.overviewLine e).toList <:+: r.overview.text.toList := by
  refine Text.part_of_intercalate (List.mem_append_left _ (List.mem_append_right _ ?_))
  exact List.mem_map_of_mem he

/-- A script listed in the overview has help of its own, which a query for its name gets if the name
is trimmed and lowercase. In general a query gets this help iff its trimmed lowercase form looks it
up, and a query that looks up nothing is a search. -/
theorem respond_listed (r : Responder) (e : String × Record) (he : e ∈ r.listed)
    (hq : ¬ Reserved e.1) :
    (r.overviewLine e).toList <:+: r.overview.text.toList ∧
    ∃ reply, r.scriptHelp? e.1 = some reply ∧ reply.kind = .script ∧
      reply.commands = r.rename (e.2.commands.mergeSort fun a b => decide (a ≤ b)) ∧
      (nameAsked e.1 = e.1 → r.respond (some e.1) = .ok reply) ∧
      (r.scriptHelp? (nameAsked e.1) = none →
        r.respond (some e.1) = r.searchReply (Text.strip e.1)) ∧
      ∀ q, ¬ Reserved q →
        (r.respond (some q) = .ok reply ↔ r.scriptHelp? (nameAsked q) = some reply) := by
  obtain ⟨hmem, -, hc⟩ := mem_listed.mp he
  obtain ⟨reply, hreply, hkind, hcommands⟩ := scriptHelp?_of_mem hmem hc
  refine ⟨overview_shows he, reply, hreply, hkind, hcommands, ?_, ?_, ?_⟩
  · intro hname
    rw [respond_of_not_reserved hq, hname, hreply, Option.elim_some]
  · intro hnone
    rw [respond_of_not_reserved hq, hnone, Option.elim_none]
  · intro q hq'
    rw [respond_of_not_reserved hq']
    cases r.scriptHelp? (nameAsked q) with
    | some other => simp
    | none => exact iff_of_false (searchReply_ne hkind) (by simp)

def withScript (name : String) (commands : List String) : Responder :=
  let corpus : Corpus := ⟨[(name, { commands })], by simp⟩
  { corpus, index := .ofCorpus 0 corpus none, robotName := "hubot", robotAlias := none, limit := 5 }

theorem respond_listed_ping :
    let r := withScript "ping" ["hubot ping", "hubot echo"]
    ("ping", { commands := ["hubot ping", "hubot echo"] }) ∈ r.listed ∧ ¬ Reserved "ping" ∧
      ∃ reply, r.scriptHelp? "ping" = some reply ∧ r.respond (some " PING ") = .ok reply := by
  have hmem : ("ping", { commands := ["hubot ping", "hubot echo"] }) ∈
      (withScript "ping" ["hubot ping", "hubot echo"]).listed := by decide
  obtain ⟨-, reply, hreply, -, -, -, -, hasked⟩ :=
    respond_listed (withScript "ping" ["hubot ping", "hubot echo"]) _ hmem (by decide)
  exact ⟨hmem, by decide, reply, hreply, (hasked " PING " (by decide)).mpr hreply⟩

/-- The overview lists `Ping`, but a query for it is a search. -/
theorem not_respond_listed_capital :
    let r := withScript "Ping" ["hubot ping"]
    ("Ping", { commands := ["hubot ping"] }) ∈ r.listed ∧ ¬ Reserved "Ping" ∧
      ∃ reply, r.scriptHelp? "Ping" = some reply ∧ r.respond (some "Ping") ≠ .ok reply := by
  have hmem : ("Ping", { commands := ["hubot ping"] }) ∈
      (withScript "Ping" ["hubot ping"]).listed := by decide
  obtain ⟨hentry, -, hc⟩ := mem_listed.mp hmem
  obtain ⟨reply, hreply, hkind, -⟩ := scriptHelp?_of_mem hentry hc
  refine ⟨hmem, by decide, reply, hreply, fun h => ?_⟩
  have hnone : (withScript "Ping" ["hubot ping"]).scriptHelp? (nameAsked "Ping") = none := by
    have hget : (withScript "Ping" ["hubot ping"]).corpus.get? (nameAsked "Ping") = none := by
      decide
    rw [scriptHelp?, hget]
  rw [respond_of_not_reserved (by decide), hnone] at h
  exact searchReply_ne hkind h

end Responder

end ScriptHelp
