import ScriptHelp.Proofs.PatternMatching
import ScriptHelp.Proofs.SearchTiers

namespace ScriptHelp

def Text.Ascii (s : String) : Prop := ∀ c ∈ s.toList, c.toNat < 0x80

instance : DecidablePred Text.Ascii := fun s =>
  List.decidableBAll (fun c : Char => c.toNat < 0x80) s.toList

def Pattern.Plain (s : String) : Prop := ∀ c ∈ s.toList, c ∉ metacharacters

instance : DecidablePred Pattern.Plain := fun s =>
  List.decidableBAll (fun c => c ∉ Pattern.metacharacters) s.toList

namespace Index

open Text Pattern

variable {i : Index} {e : Entry} {q q' : String}

theorem toList_lower (hq : Ascii (lower q)) : (lower q).toList = q.toList.map lowerChar := by
  rw [Ascii, lower, String.toList_ofList] at hq
  rw [lower, String.toList_ofList, lowerList_eq_map hq]

theorem ascii_lower (hq : Ascii q) : Ascii (lower q) := by
  have hlower : ∀ n < 0x80, lowerCode n < 0x80 := by decide +kernel
  rw [Ascii, lower, String.toList_ofList, lowerList_of_ascii hq]
  intro c hc
  obtain ⟨d, hd, rfl⟩ := List.mem_map.mp hc
  rw [toNat_lowerChar]
  exact hlower _ (hq d hd)

theorem spells_iff {cs w : List Char} (hcs : ∀ c ∈ cs, lowerCode c.toNat < 0x80)
    (hw : ∀ c ∈ w, c.toNat < 0x80) : Address.Spells cs w ↔ cs.map lowerChar = w.map lowerChar := by
  induction cs generalizing w with
  | nil => simp [eq_comm]
  | cons c cs ih =>
    cases w with
    | nil => simp
    | cons d ds =>
      rw [List.forall_mem_cons] at hcs hw
      rw [Address.spells_cons, sameLetter_iff_of_ascii hcs.1 hw.1, ih hcs.2 hw.2, List.map_cons,
        List.map_cons, List.cons.injEq]

/-- Some spelling of a lowercase query is part of the command. -/
theorem spelled_iff {cmd : String} (hq : Ascii (lower q)) (hcmd : Ascii cmd) :
    (∃ w, Address.Spells q.toList w ∧ w <:+: cmd.toList) ↔
      (lower q).toList <:+: (lower cmd).toList := by
  have hlower : ∀ c ∈ q.toList, lowerCode c.toNat < 0x80 := by
    intro c hc
    rw [← toNat_lowerChar]
    refine hq _ ?_
    rw [toList_lower hq]
    exact List.mem_map_of_mem hc
  rw [toList_lower hq, toList_lower (ascii_lower hcmd), List.infix_map_iff]
  refine exists_congr fun w => ?_
  rw [and_comm]
  refine and_congr_right fun hw => ?_
  exact spells_iff hlower fun c hc => hcmd c (hw.subset hc)

theorem legible_of_plain (room : Nat) (hq : Plain q) : Legible room q := by
  intro f hf
  rw [ofString_plain room hq] at hf
  cases hf

theorem answers_pattern_iff (hplain : Plain q) (hq : Ascii (lower q)) (room : Nat)
    (ignored : List String) {cmd : String} (hcmd : Ascii cmd) :
    (Entry.ofCommand cmd).Answers room ignored q .pattern ↔
      (Entry.ofCommand cmd).Answers room ignored q .part := by
  have hpattern : (Entry.ofCommand cmd).Answers room ignored q .pattern ↔
      ∃ w, Address.Spells q.toList w ∧ w <:+: cmd.toList := by
    simp only [Entry.Answers, ofString_plain room hplain, Except.ok.injEq, exists_eq_left',
      occursIn_literals]
    rfl
  rw [hpattern, spelled_iff hq hcmd]
  rfl

theorem hits_congr {t : Tier} (ht : t ≠ .pattern) (h : lower q' = lower q) :
    i.hits q' t = i.hits q t := by
  refine List.filter_congr fun e _ => ?_
  rw [decide_eq_decide]
  cases t with
  | part => rw [Entry.Answers, Entry.Answers, h]
  | pattern => exact absurd rfl ht
  | words => rw [Entry.Answers, Entry.Answers, h]

/-- A pattern tier that agrees with the part tier never decides. -/
theorem hitsIn_deciding?_of_eq (h : i.hits q .pattern = i.hits q .part) :
    i.hitsIn q (i.deciding? q) =
      if i.hits q .part = [] then i.hits q .words else i.hits q .part := by
  by_cases hpart : i.hits q .part = []
  · by_cases hwords : i.hits q .words = []
    · simp [deciding?, Tier.all, hitsIn, h, hpart, hwords]
    · simp [deciding?, Tier.all, hitsIn, h, hpart, hwords]
  · simp [deciding?, Tier.all, hitsIn, hpart]

theorem plain_of_lower (hq : Ascii (lower q)) (hlower : lower q' = lower q) (hplain : Plain q) :
    Plain q' := by
  have hfixed : ∀ n ∈ metacharacters.map Char.toNat,
      lowerCode n = n ∧ (n < 0x61 ∨ 0x7b ≤ n ∧ n < 0x80) := by decide +kernel
  intro c hc hmeta
  obtain ⟨hself, hrange⟩ := hfixed _ (List.mem_map_of_mem hmeta)
  have hmem : lowerChar c ∈ q.toList.map lowerChar := by
    rw [← toList_lower hq, ← hlower, toList_lower (hlower ▸ hq)]
    exact List.mem_map_of_mem hc
  obtain ⟨d, hd, hdc⟩ := List.mem_map.mp hmem
  have hcode : lowerCode d.toNat = c.toNat := by rw [← toNat_lowerChar, hdc, toNat_lowerChar, hself]
  have hdself := lowerCode_eq_self (hcode ▸ hrange)
  obtain rfl : d = c := Char.toNat_inj.mp (hdself.symm.trans hcode)
  exact hplain d hd hmeta

section Ascii

variable {room : Nat} {c : Corpus} {ws : Option (List String)} (hc : ∀ cmd ∈ c.commands, Ascii cmd)
include hc

theorem hits_pattern_eq (hplain : Plain q) (hq : Ascii (lower q)) :
    (ofCorpus room c ws).hits q .pattern = (ofCorpus room c ws).hits q .part := by
  refine List.filter_congr fun e he => ?_
  have hentries : (ofCorpus room c ws).entries = c.commands.map Entry.ofCommand := rfl
  obtain ⟨cmd, hcmd, rfl⟩ := List.mem_map.mp (hentries ▸ he)
  rw [decide_eq_decide]
  exact answers_pattern_iff hplain hq room _ (hc cmd hcmd)

theorem search_plain (hplain : Plain q) (hq : Ascii (lower q)) : (ofCorpus room c ws).search q =
    .ok ((if (ofCorpus room c ws).hits q .part = [] then (ofCorpus room c ws).hits q .words
      else (ofCorpus room c ws).hits q .part).map Entry.command) := by
  rw [search_eq (legible_of_plain room hplain),
    hitsIn_deciding?_of_eq (hits_pattern_eq hc hplain hq)]

end Ascii

/-- A query of plain characters finds the same as a pattern and as a part. So the search gives the
commands that contain the query, or if there are none those that share a term with it, whatever the
case of the query. -/
theorem search_literal (room : Nat) (c : Corpus) (ws : Option (List String)) (q : String)
    (hc : ∀ cmd ∈ c.commands, Ascii cmd) (hq : Ascii q) (hplain : Plain q) :
    let i := ofCorpus room c ws
    i.found q .pattern = i.found q .part ∧
    i.search q = .ok ((if i.hits q .part = [] then i.hits q .words
      else i.hits q .part).map Entry.command) ∧
    ∀ q', lower q' = lower q → i.search q' = i.search q := by
  intro i
  have hlower := ascii_lower hq
  refine ⟨?_, search_plain hc hplain hlower, ?_⟩
  · rw [found_pattern (legible_of_plain room hplain), found_part, hits_pattern_eq hc hplain hlower]
  · intro q' hq'
    rw [search_plain hc (plain_of_lower hlower hq' hplain) (hq' ▸ hlower),
      search_plain hc hplain hlower, hits_congr (by decide) hq', hits_congr (by decide) hq']

theorem search_literal_ping :
    let c : Corpus := ⟨[("ping", { commands := ["hubot ping", "hubot echo <text>"] })], by simp⟩
    (∀ cmd ∈ c.commands, Ascii cmd) ∧ Ascii "ping robot" ∧ Plain "ping robot" ∧
      (ofCorpus 0 c none).search "PING Robot" = .ok ["hubot ping"] := by
  intro c
  have hc : ∀ cmd ∈ c.commands, Ascii cmd := by decide
  have hq : Ascii "ping robot" := by decide
  have hplain : Plain "ping robot" := by decide
  obtain ⟨-, hsearch, hcase⟩ := search_literal 0 c none "ping robot" hc hq hplain
  refine ⟨hc, hq, hplain, ?_⟩
  rw [hcase "PING Robot" (by decide +kernel), hsearch]
  decide +kernel

end Index

end ScriptHelp
