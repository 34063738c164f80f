import ScriptHelp.Proofs.LiteralQueries
import ScriptHelp.Proofs.ScriptQueries
import ScriptHelp.Proofs.SliceQueries
import ScriptHelp.Tool.Answer

namespace ScriptHelp

namespace Index

variable {i : Index} {q : String} {t : Tier} {es : List Entry}

theorem sublist_of_found (h : i.found q t = .ok es) : es.Sublist i.entries := by
  cases t with
  | part =>
    obtain rfl := Except.ok.inj h
    exact List.filter_sublist
  | pattern =>
    unfold found at h
    cases hq : Pattern.ofString i.room q with
    | ok p =>
      rw [hq] at h
      obtain rfl := Except.ok.inj h
      exact List.filter_sublist
    | error f =>
      rw [hq] at h
      cases f with
      | invalid =>
        obtain rfl := Except.ok.inj h
        exact List.nil_sublist _
      | _ => cases h
  | words =>
    obtain rfl := Except.ok.inj h
    exact List.filter_sublist

theorem sublist_of_searchIn {ts : List Tier} (h : i.searchIn q ts = .ok es) :
    es.Sublist i.entries := by
  induction ts with
  | nil =>
    obtain rfl := Except.ok.inj h
    exact List.nil_sublist _
  | cons t ts ih =>
    rw [searchIn] at h
    cases hfound : i.found q t with
    | error f =>
      rw [hfound] at h
      cases h
    | ok es' =>
      rw [hfound] at h
      -- an empty tier leaves the query to the next ones
      cases es' with
      | nil => exact ih h
      | cons e es' =>
        obtain rfl := Except.ok.inj h
        exact sublist_of_found hfound

theorem sublist_of_search {found : List String} (h : i.search q = .ok found) :
    found.Sublist i.commands := by
  rw [search] at h
  cases hin : i.searchIn q Tier.all with
  | error f =>
    rw [hin] at h
    cases h
  | ok es =>
    rw [hin] at h
    obtain rfl := Except.ok.inj h
    exact (sublist_of_searchIn hin).map Entry.command

/-- The empty query is part of every command. -/
theorem search_empty (i : Index) : i.search "" = .ok i.commands := by
  have hpart : i.hits "" .part = i.entries := by
    have hlower : Text.lower "" = "" := by decide
    refine List.filter_eq_self.mpr fun e _ => decide_eq_true ?_
    rw [Entry.Answers, hlower]
    exact List.nil_infix
  cases hentries : i.entries with
  | nil =>
    have hlegible : Legible i.room "" := legible_of_plain i.room (by decide)
    have hnone : i.hitsIn "" (i.deciding? "") = [] :=
      hitsIn_deciding?_eq_nil.mpr fun t => by rw [hits, hentries]; rfl
    rw [search_eq hlegible, hnone, commands, hentries, List.map_nil]
  | cons e es =>
    have hne : i.hits "" .part ≠ [] := by
      rw [hpart, hentries]
      exact List.cons_ne_nil e es
    rw [search_of_part hne, hpart, commands]

end Index

namespace Responder

open Text

variable {r : Responder} {reply : Reply} {k q m : String}

theorem spells_iff_map_lowerChar {name w : List Char}
    (h : ∀ n ∈ name, lowerCode n.toNat = n.toNat ∧ sharing n.toNat = []) :
    Address.Spells name w ↔ w.map lowerChar = name := by
  induction name generalizing w with
  | nil => simp
  | cons n name ih =>
    rw [List.forall_mem_cons] at h
    obtain ⟨⟨hlower, hsharing⟩, hname⟩ := h
    have hletter : ∀ c, sameLetter n c = true ↔ lowerChar c = n := by
      intro c
      simp only [sameLetter, hlower, hsharing, List.contains_nil, Bool.or_false, beq_iff_eq]
      rw [← toNat_lowerChar, Char.toNat_inj]
    cases w with
    | nil => simp
    | cons c w => rw [Address.spells_cons, hletter, ih hname, List.map_cons, List.cons.injEq]

theorem lowerList_eq_generic_iff {w : List Char} :
    lowerList w = genericName ↔ w.map lowerChar = genericName := by
  have hascii : ∀ c ∈ genericName, c.toNat < 0x80 := List.all_iff_forall_prop.mp (by decide)
  have hnot : lowerChar 'Σ' ∉ genericName ∧ lowerChar 'İ' ∉ genericName := by decide +kernel
  constructor
  · intro h
    rw [← h]
    exact (lowerList_eq_map (h ▸ hascii)).symm
  · intro h
    have hmem : ∀ c ∈ w, lowerChar c ∈ genericName := fun c hc => h ▸ List.mem_map_of_mem hc
    rw [← h]
    refine lowerAfter_eq_map fun c hc => ⟨?_, ?_⟩
    · rintro rfl
      exact hnot.1 (hmem _ hc)
    · rintro rfl
      exact hnot.2 (hmem _ hc)

/-- The first five characters are replaced by the robot's name if they are the generic name in any
case. -/
theorem renameOne_eq (name command : String) : renameOne name command =
    if lowerList (command.toList.take 5) = genericName
    then name ++ String.ofList (command.toList.drop 5) else command := by
  have hfixed : ∀ n ∈ genericName, lowerCode n.toNat = n.toNat ∧ sharing n.toNat = [] :=
    List.all_iff_forall_prop.mp (by decide +kernel)
  unfold renameOne
  cases hafter : Address.after? genericName command.toList with
  | some rest =>
    obtain ⟨w, hw, hcommand⟩ := Address.after?_eq_some_iff.mp hafter
    have hlength : w.length = 5 := hw.length_eq.symm
    have htake : command.toList.take 5 = w := by rw [hcommand, ← hlength, List.take_left]
    have hdrop : command.toList.drop 5 = rest := by rw [hcommand, ← hlength, List.drop_left]
    have hlower : lowerList w = genericName :=
      lowerList_eq_generic_iff.mpr ((spells_iff_map_lowerChar hfixed).mp hw)
    rw [htake, hdrop, if_pos hlower]
  | none =>
    have hnot : lowerList (command.toList.take 5) ≠ genericName := by
      intro hlower
      have hspells : Address.Spells genericName (command.toList.take 5) :=
        (spells_iff_map_lowerChar hfixed).mpr (lowerList_eq_generic_iff.mp hlower)
      have hsome : Address.after? genericName command.toList = some (command.toList.drop 5) :=
        Address.after?_eq_some_iff.mpr ⟨_, hspells, (List.take_append_drop 5 _).symm⟩
      rw [hafter] at hsome
      cases hsome
    rw [if_neg hnot]

theorem commands_of_scriptHelp? (h : r.scriptHelp? k = some reply) :
    reply.commands ⊆ r.allCommands.commands := by
  rw [scriptHelp?] at h
  cases hget : r.corpus.get? k with
  | none =>
    rw [hget] at h
    cases h
  | some record =>
    have hentry : (k, record) ∈ r.corpus.entries := Lists.mem_of_lookup hget
    have hsub : record.commands ⊆ r.corpus.commands := fun c hc =>
      List.mem_flatMap.mpr ⟨_, hentry, hc⟩
    simp only [hget] at h
    split_ifs at h
    obtain rfl := Option.some.inj h
    intro c hc
    obtain ⟨d, hd, rfl⟩ := List.mem_map.mp hc
    exact List.mem_map_of_mem (hsub (List.mem_mergeSort.mp hd))

theorem exists_searchReply {found : List String} (h : r.index.search q = .ok found) :
    ∃ reply, r.searchReply q = .ok reply ∧ reply.commands = r.rename found := by
  rw [searchReply, h]
  cases found with
  | nil => exact ⟨_, rfl, rfl⟩
  | cons c cs => exact ⟨_, rfl, rfl⟩

theorem commands_of_searchReply (h : r.searchReply q = .ok reply) :
    ∃ found, r.index.search q = .ok found ∧ reply.commands = r.rename found := by
  cases hsearch : r.index.search q with
  | error f =>
    rw [searchReply, hsearch] at h
    cases h
  | ok found =>
    obtain ⟨reply', hreply, hcommands⟩ := exists_searchReply hsearch
    obtain rfl : reply' = reply := Except.ok.inj (hreply.symm.trans h)
    exact ⟨found, rfl, hcommands⟩

theorem commands_suggestion (r : Responder) (found : List String) :
    (r.suggestion found).commands = r.rename (limited r.limit found) := by
  cases found with
  | nil =>
    have hnone : limited r.limit [] = [] := by
      unfold limited
      split_ifs <;> exact List.take_nil
    rw [hnone]
    rfl
  | cons c cs => rfl

theorem limited_subset (limit : Int) (found : List String) : limited limit found ⊆ found := by
  unfold limited
  split_ifs <;> exact List.take_subset _ _

theorem commands_of_catchAll (h : r.catchAll m = .ok (some reply)) :
    ∃ q found, r.index.search q = .ok found ∧
      reply.commands = r.rename (limited r.limit found) := by
  unfold catchAll at h
  cases hrest : Address.remainder? r.names m with
  | none =>
    rw [hrest] at h
    cases h
  | some rest =>
    rw [hrest] at h
    cases hsearch : r.index.search rest with
    | error f =>
      simp only [hsearch, bind, Except.bind] at h
      cases h
    | ok found =>
      simp only [hsearch, bind, Except.bind] at h
      obtain rfl : r.suggestion found = reply := Option.some.inj (Except.ok.inj h)
      exact ⟨rest, found, hsearch, commands_suggestion r found⟩

/-- Every reply lists commands from the list of all commands. -/
structure ListsAlike (r : Responder) : Prop where
  all : r.allCommands.commands = r.index.commands.map (renameOne r.robotName)
  size : r.allCommands.commands.length = r.index.size
  nothing : ∃ reply, r.searchReply "" = .ok reply ∧ reply.commands = r.allCommands.commands
  script : ∀ {k reply}, r.scriptHelp? k = some reply → reply.commands ⊆ r.allCommands.commands
  search : ∀ {q reply}, r.searchReply q = .ok reply → reply.commands ⊆ r.allCommands.commands
  suggested : ∀ {m reply}, r.catchAll m = .ok (some reply) →
    reply.commands ⊆ r.allCommands.commands

theorem listsAlike {room : Nat} {ws : Option (List String)}
    (h : r.index = .ofCorpus room r.corpus ws) : r.ListsAlike := by
  have hall : r.allCommands.commands = r.rename r.index.commands := by
    rw [h, Index.commands_ofCorpus]
    rfl
  have hfound : ∀ {q found}, r.index.search q = .ok found →
      r.rename found ⊆ r.allCommands.commands := by
    intro q found hsearch
    rw [hall]
    exact List.map_subset _ (Index.sublist_of_search hsearch).subset
  refine ⟨hall, ?_, ?_, commands_of_scriptHelp?, ?_, ?_⟩
  · rw [hall, rename, Index.commands, List.length_map, List.length_map, Index.size]
  · obtain ⟨reply, hreply, hcommands⟩ := exists_searchReply (Index.search_empty r.index)
    exact ⟨reply, hreply, hcommands.trans hall.symm⟩
  · intro q reply hreply
    obtain ⟨found, hsearch, hcommands⟩ := commands_of_searchReply hreply
    rw [hcommands]
    exact hfound hsearch
  · intro m reply hreply
    obtain ⟨q, found, hsearch, hcommands⟩ := commands_of_catchAll hreply
    rw [hcommands]
    exact List.Subset.trans (List.map_subset _ (limited_subset r.limit found)) (hfound hsearch)

theorem respond_all (r : Responder) : r.respond (some "all") = .ok r.allCommands := by
  have hstrip : strip "all" = "all" := by decide
  have hlower : lower "all" = "all" := by decide
  have hoverview : asksOverview "all" = false := by decide
  simp [respond, hstrip, hlower, hoverview]

/-- A robot whose index is built from its corpus lists the same renamed commands in all replies.
After a load, help and reload count as many commands as are listed. -/
theorem lists_alike (r : Responder) (room : Nat) (ws : Option (List String))
    (h : r.index = .ofCorpus room r.corpus ws) :
    r.ListsAlike ∧
    (∀ command, renameOne r.robotName command =
      if lowerList (command.toList.take 5) = genericName
      then r.robotName ++ String.ofList (command.toList.drop 5) else command) ∧
    ∀ (host : Host) (e : Environment), let x := Snapshot.load host e
      x.responder.ListsAlike ∧ ∃ listed reloaded : HelpData,
        (Call.help (some "all")).answer (.ok x) = .ok listed.envelope ∧
        Call.reload.answer (.ok x) = .ok reloaded.envelope ∧
        listed.entries = x.responder.allCommands.commands ∧
        listed.summary.lookup "count" = some (.int listed.entries.length) ∧
        reloaded.summary.lookup "commands" = some (.int listed.entries.length) := by
  refine ⟨listsAlike h, renameOne_eq r.robotName, fun host e => ?_⟩
  intro x
  have hindex : x.responder.index = .ofCorpus host.stack.pattern x.responder.corpus none := rfl
  have halike : x.responder.ListsAlike := listsAlike hindex
  have hanswer : (Call.help (some "all")).answer (.ok x) =
      .ok (HelpData.ofHelp x x.responder.allCommands).envelope := by
    simp only [Call.answer, Call.data, respond_all]
    rfl
  have hcounted : (HelpData.ofReload x).summary.lookup "commands" =
      some (.int x.responder.index.size) := rfl
  refine ⟨halike, _, HelpData.ofReload x, hanswer, rfl, rfl, rfl, ?_⟩
  rw [hcounted, ← halike.size]
  rfl

/-- The name is inserted verbatim, and the generic name counts in any case but only in front. -/
theorem lists_alike_backslash :
    let r := { withScript "ping" ["HuBot ping", "ping hubot"] with robotName := "\\1" }
    r.index = .ofCorpus 0 r.corpus none ∧ r.ListsAlike ∧
      r.allCommands.commands = ["\\1 ping", "ping hubot"] := by
  intro r
  have hindex : r.index = .ofCorpus 0 r.corpus none := rfl
  obtain ⟨halike, -, -⟩ := lists_alike r 0 none hindex
  refine ⟨hindex, halike, ?_⟩
  rw [halike.all]
  decide +kernel

end Responder

end ScriptHelp
