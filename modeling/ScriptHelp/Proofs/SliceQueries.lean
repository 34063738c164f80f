import ScriptHelp.Proofs.LetterCase
import ScriptHelp.Proofs.SearchTiers

namespace ScriptHelp

namespace Index

open Text

variable {i : Index} {q : String} {room : Nat}

/-- If any command contains the query, exactly those commands are found. -/
theorem search_of_part (h : i.hits q .part ≠ []) :
    i.search q = .ok ((i.hits q .part).map Entry.command) := by
  rw [search, Tier.all, searchIn, found_part]
  cases hhits : i.hits q .part with
  | nil => exact absurd hhits h
  | cons e es => rfl

theorem commands_ofCorpus (c : Corpus) (ws : Option (List String)) :
    (ofCorpus room c ws).commands = c.commands := by
  have hentries : (ofCorpus room c ws).entries = c.commands.map Entry.ofCommand := rfl
  rw [commands, hentries, List.map_map]
  exact List.map_id _

theorem commands_hits_part (c : Corpus) (ws : Option (List String)) (q : String) :
    ((ofCorpus room c ws).hits q .part).map Entry.command =
      c.commands.filter fun d => isPart (lower q).toList (lower d).toList := by
  have hentries : (ofCorpus room c ws).entries = c.commands.map Entry.ofCommand := rfl
  rw [hits, hentries, List.filter_map, List.map_map]
  refine (List.map_id _).trans (List.filter_congr fun d _ => ?_)
  rw [Function.comp_apply, Bool.eq_iff_iff, decide_eq_true_iff, isPart_iff]
  rfl

/-- A slice of a command without a sigma finds the command as often as it is in the index, and only
commands whose lowercase form contains the lowercase slice. -/
theorem search_slice (room : Nat) (c : Corpus) (ws : Option (List String)) (e : String × Record)
    (cmd q : String) (he : e ∈ c.entries) (hcmd : cmd ∈ e.2.commands)
    (hslice : q.toList <:+: cmd.toList) (hsigma : 'Σ' ∉ q.toList) :
    ∃ found, (ofCorpus room c ws).search q = .ok found ∧ cmd ∈ found ∧
      found.count cmd = (ofCorpus room c ws).commands.count cmd ∧
      ∀ d, d ∈ found ↔ d ∈ c.commands ∧ (lower q).toList <:+: (lower d).toList := by
  have hmem : cmd ∈ c.commands := List.mem_flatMap.mpr ⟨e, he, hcmd⟩
  have hlower : isPart (lower q).toList (lower cmd).toList = true := by
    rw [isPart_iff, lower, lower, String.toList_ofList, String.toList_ofList]
    exact lowerList_infix_lowerAfter hsigma hslice []
  have hfound : cmd ∈ c.commands.filter fun d => isPart (lower q).toList (lower d).toList :=
    List.mem_filter.mpr ⟨hmem, hlower⟩
  -- the command itself is found, so later tiers are not reached
  have hne : (ofCorpus room c ws).hits q .part ≠ [] := by
    intro hnil
    rw [← commands_hits_part c ws q, hnil] at hfound
    exact List.not_mem_nil hfound
  refine ⟨_, (search_of_part hne).trans (congrArg Except.ok (commands_hits_part c ws q)), hfound,
    ?_, fun d => ?_⟩
  · rw [commands_ofCorpus]
    exact List.count_filter hlower
  · rw [List.mem_filter, isPart_iff]

/-- `İ` has a lowercase form of two characters, and as a pattern the slice has too large a count. -/
theorem search_slice_repetition :
    let cmd := "hubot wait İ{4294967295}"
    let q := "t İ{4294967295}"
    let c : Corpus :=
      ⟨[("wait", { commands := [cmd, "hubot go"] }), ("pause", { commands := [cmd] })], by simp⟩
    (∃ e ∈ c.entries, cmd ∈ e.2.commands) ∧ q.toList <:+: cmd.toList ∧ 'Σ' ∉ q.toList ∧
      ∃ found, (ofCorpus 0 c none).search q = .ok found ∧ found.count cmd = 2 := by
  intro cmd q c
  have he : ("pause", { commands := [cmd] }) ∈ c.entries := by simp [c]
  have hcmd : cmd ∈ ("pause", { commands := [cmd] : Record }).2.commands :=
    List.mem_singleton_self cmd
  have hslice : q.toList <:+: cmd.toList := by decide +kernel
  have hsigma : 'Σ' ∉ q.toList := by decide +kernel
  obtain ⟨found, hsearch, -, hcount, -⟩ := search_slice 0 c none _ cmd q he hcmd hslice hsigma
  refine ⟨⟨_, he, hcmd⟩, hslice, hsigma, found, hsearch, ?_⟩
  rw [hcount, commands_ofCorpus]
  decide +kernel

/-- The lowercase form of a final sigma is no slice of the lowercase command. -/
example : ¬ (lower "Σ").toList <:+: (lower "hubot ΦΩΣ").toList := by decide +kernel

end Index

end ScriptHelp
