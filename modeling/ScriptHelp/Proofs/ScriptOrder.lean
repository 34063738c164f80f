import ScriptHelp.Proofs.Lists
import ScriptHelp.Proofs.PatternMatching
import ScriptHelp.Proofs.ScriptQueries

namespace ScriptHelp.Responder

variable {r : Responder} {name a b c s t : String} {commands cs : List String}

def Ascending (commands : List String) : Prop := commands.Pairwise (· ≤ ·)

theorem ascending_mergeSort (commands : List String) :
    Ascending (commands.mergeSort fun a b => decide (a ≤ b)) := by
  have htrans : ∀ a b c : String,
      decide (a ≤ b) = true → decide (b ≤ c) = true → decide (a ≤ c) = true := by
    intro a b c hab hbc
    exact decide_eq_true (String.le_trans (of_decide_eq_true hab) (of_decide_eq_true hbc))
  have htotal : ∀ a b : String, (decide (a ≤ b) || decide (b ≤ a)) = true := by
    intro a b
    simpa using String.le_total a b
  exact (List.pairwise_mergeSort htrans htotal commands).imp of_decide_eq_true

theorem ascending_map_iff {f : String → String} (h : Ascending cs) :
    Ascending (cs.map f) ↔ ∀ a ∈ cs, ∀ b ∈ cs, a ≤ b → f a ≤ f b := by
  induction cs with
  | nil => simp [Ascending]
  | cons c cs ih =>
    obtain ⟨hc, hcs⟩ := List.pairwise_cons.mp h
    rw [Ascending, List.map_cons, List.pairwise_cons]
    constructor
    · rintro ⟨hfirst, hrest⟩ a ha b hb hab
      rcases List.mem_cons.mp ha with rfl | hacs
      · rcases List.mem_cons.mp hb with rfl | hbcs
        · exact String.le_refl _
        · exact hfirst _ (List.mem_map_of_mem hbcs)
      · rcases List.mem_cons.mp hb with rfl | hbcs
        · -- the first one is the least, so what is not above it is the same
          obtain rfl := String.le_antisymm hab (hc a hacs)
          exact String.le_refl _
        · exact (ih hcs).mp hrest a hacs b hbcs hab
    · intro hkeeps
      constructor
      · intro fb hfb
        obtain ⟨b, hb, rfl⟩ := List.mem_map.mp hfb
        exact hkeeps c List.mem_cons_self b (List.mem_cons_of_mem c hb) (hc b hb)
      · exact (ih hcs).mpr fun a ha b hb =>
          hkeeps a (List.mem_cons_of_mem c ha) b (List.mem_cons_of_mem c hb)

theorem append_le_append_iff : name ++ s ≤ name ++ t ↔ s ≤ t := by
  rw [← String.not_lt, ← String.not_lt, String.lt_iff, String.lt_iff, String.toList_append,
    String.toList_append]
  constructor
  · exact mt List.append_left_lt
  · exact fun h => List.not_lt.mpr (List.append_left_le (List.not_lt.mp h))

def said? (command : String) : Option String :=
  (Address.after? genericName command.toList).map String.ofList

theorem renameOne_of_said? (h : said? c = some s) : renameOne name c = name ++ s := by
  obtain ⟨rest, hrest, rfl⟩ := Option.map_eq_some_iff.mp h
  rw [renameOne, hrest]

theorem renameOne_of_not_said (h : said? c = none) : renameOne name c = c := by
  rw [renameOne, Option.map_eq_none_iff.mp h]

/-- Renaming keeps the order: of two commands with the generic name, and of one with it and one
without. -/
structure KeepsOrder (name : String) (commands : List String) : Prop where
  both : ∀ a ∈ commands, ∀ b ∈ commands, a ≤ b → ∀ s ∈ said? a, ∀ t ∈ said? b, s ≤ t
  below : ∀ a ∈ commands, ∀ b ∈ commands, a ≤ b → ∀ s ∈ said? a, said? b = none → name ++ s ≤ b
  above : ∀ a ∈ commands, ∀ b ∈ commands, a ≤ b → said? a = none → ∀ t ∈ said? b, a ≤ name ++ t

theorem keepsOrder_iff : KeepsOrder name commands ↔
    ∀ a ∈ commands, ∀ b ∈ commands, a ≤ b → renameOne name a ≤ renameOne name b := by
  constructor
  · intro h a ha b hb hab
    cases hs : said? a with
    | some s =>
      rw [renameOne_of_said? hs]
      cases ht : said? b with
      | some t =>
        rw [renameOne_of_said? ht, append_le_append_iff]
        exact h.both a ha b hb hab s hs t ht
      | none =>
        rw [renameOne_of_not_said ht]
        exact h.below a ha b hb hab s hs ht
    | none =>
      rw [renameOne_of_not_said hs]
      cases ht : said? b with
      | some t =>
        rw [renameOne_of_said? ht]
        exact h.above a ha b hb hab hs t ht
      | none =>
        rw [renameOne_of_not_said ht]
        exact hab
  · intro h
    refine ⟨?_, ?_, ?_⟩ <;> intro a ha b hb hab
    · intro s hs t ht
      have hle := h a ha b hb hab
      rwa [renameOne_of_said? hs, renameOne_of_said? ht, append_le_append_iff] at hle
    · intro s hs ht
      have hle := h a ha b hb hab
      rwa [renameOne_of_said? hs, renameOne_of_not_said ht] at hle
    · intro hs t ht
      have hle := h a ha b hb hab
      rwa [renameOne_of_not_said hs, renameOne_of_said? ht] at hle

theorem said?_append {w : List Char} (hw : Address.Spells genericName w) (s : String) :
    said? (String.ofList w ++ s) = some s := by
  have hafter : Address.after? genericName (w ++ s.toList) = some s.toList :=
    Address.after?_eq_some_iff.mpr ⟨w, hw, rfl⟩
  rw [said?, String.toList_append, String.toList_ofList, hafter, Option.map_some,
    String.ofList_toList]

def Uniform (commands : List String) : Prop :=
  (∀ c ∈ commands, said? c = none) ∨
    ∃ w, Address.Spells genericName w ∧ ∀ c ∈ commands, ∃ s, c = String.ofList w ++ s

theorem keepsOrder_of_uniform (h : Uniform commands) (name : String) :
    KeepsOrder name commands := by
  refine keepsOrder_iff.mpr fun a ha b hb hab => ?_
  rcases h with hnone | ⟨w, hw, hsame⟩
  · rwa [renameOne_of_not_said (hnone a ha), renameOne_of_not_said (hnone b hb)]
  · obtain ⟨s, rfl⟩ := hsame a ha
    obtain ⟨t, rfl⟩ := hsame b hb
    rw [renameOne_of_said? (said?_append hw s), renameOne_of_said? (said?_append hw t)]
    exact append_le_append_iff.mpr (append_le_append_iff.mp hab)

/-- Some robot name changes the order of a command with the generic name and one without. -/
theorem exists_not_keepsOrder (ha : a ∈ commands) (hb : b ∈ commands) (hs : said? a ≠ none)
    (hnone : said? b = none) (hfirst : ∃ c ∈ b.toList.head?, c ≠ '\x00') :
    ∃ name, ¬ KeepsOrder name commands := by
  obtain ⟨s, hs⟩ := Option.ne_none_iff_exists'.mp hs
  obtain ⟨c, hc, hne⟩ := hfirst
  rcases String.le_total a b with hab | hba
  · refine ⟨b ++ "!", fun h => ?_⟩
    have hle : b ++ "!" ++ s ≤ b := h.below a ha b hb hab s hs hnone
    have hrest : b ++ ("!" ++ s) ≤ b ++ "" := by rwa [← String.append_assoc, String.append_empty]
    have hlt : ([] : List Char) < '!' :: s.toList := List.nil_lt_cons _ _
    refine append_le_append_iff.mp hrest ?_
    change ([] : List Char) < ("!" ++ s).toList
    rwa [String.toList_append]
  · refine ⟨"\x00", fun h => ?_⟩
    have hle : b ≤ "\x00" ++ s := h.above b hb a ha hba hnone s hs
    obtain ⟨cs, hcs⟩ := List.head?_eq_some_iff.mp hc
    have hleast : '\x00' < c := by
      refine Nat.pos_of_ne_zero fun hzero => hne ?_
      exact Char.toNat_inj.mp hzero
    rw [← String.not_lt, String.lt_iff, String.toList_append, hcs] at hle
    exact hle (List.cons_lt_cons_iff.mpr (.inl hleast))

structure Shows (r : Responder) (record : Record) (reply : Reply) : Prop where
  kind : reply.kind = .script
  text : reply.text =
    r.describe record.firstDescription ++ "  \n\n" ++ bullets reply.commands
  perm : reply.commands.Perm (r.rename record.commands)
  ordered : ∃ ordered : List String, ordered.Perm record.commands ∧ Ascending ordered ∧
    reply.commands = r.rename ordered

theorem exists_shows {key : String} {record : Record} (hget : r.corpus.get? key = some record)
    (hne : record.commands ≠ []) :
    ∃ reply, r.scriptHelp? key = some reply ∧ r.Shows record reply := by
  have hempty : record.commands.isEmpty = false := by simpa using hne
  have hperm := List.mergeSort_perm record.commands fun a b => decide (a ≤ b)
  simp only [scriptHelp?, hget, hempty, Bool.false_eq_true, if_false]
  exact ⟨_, rfl, rfl, rfl, hperm.map _, _, hperm, ascending_mergeSort _, rfl⟩

theorem Shows.ascending_iff {record : Record} {reply : Reply} (h : r.Shows record reply) :
    Ascending reply.commands ↔ KeepsOrder r.robotName record.commands := by
  obtain ⟨ordered, hperm, hordered, hcommands⟩ := h.ordered
  rw [hcommands, rename, ascending_map_iff hordered, keepsOrder_iff]
  simp only [hperm.mem_iff]

/-- The help of a script lists its renamed commands, each as often as recorded, in the order of the
recorded texts. The list is ascending iff the robot's name keeps the order. If no command has the
generic name, or all have it in one spelling, every name keeps the order. If a command has it and
another has not, and does not start with the least character, some name does not. -/
theorem scriptHelp?_ascending_iff (r : Responder) (key : String) (record : Record)
    (hget : r.corpus.get? key = some record) (hne : record.commands ≠ []) :
    (∃ reply, r.scriptHelp? key = some reply ∧ r.Shows record reply ∧
      (Ascending reply.commands ↔ KeepsOrder r.robotName record.commands) ∧
      (Uniform record.commands → Ascending reply.commands)) ∧
    ∀ a ∈ record.commands, ∀ b ∈ record.commands, said? a ≠ none → said? b = none →
      (∃ c ∈ b.toList.head?, c ≠ '\x00') →
      ∃ name reply, { r with robotName := name }.scriptHelp? key = some reply ∧
        ¬ Ascending reply.commands := by
  constructor
  · obtain ⟨reply, hreply, hshows⟩ := exists_shows hget hne
    refine ⟨reply, hreply, hshows, hshows.ascending_iff, fun huniform => ?_⟩
    exact hshows.ascending_iff.mpr (keepsOrder_of_uniform huniform r.robotName)
  · intro a ha b hb hs hnone hfirst
    obtain ⟨name, hname⟩ := exists_not_keepsOrder ha hb hs hnone hfirst
    have hget' : { r with robotName := name }.corpus.get? key = some record := hget
    obtain ⟨reply, hreply, hshows⟩ := exists_shows hget' hne
    exact ⟨name, reply, hreply, mt hshows.ascending_iff.mp hname⟩

/-- Uppercase sorts before lowercase, so `HUBOT dance` is the first here, and as `hal dance` it
still is. -/
theorem scriptHelp?_ascending_iff_spellings :
    let commands := ["ping", "hubot sing", "HUBOT dance", "hubot sing"]
    let r := { withScript "party" commands with robotName := "hal" }
    r.corpus.get? "party" = some { commands } ∧ commands ≠ [] ∧
      ∃ reply, r.scriptHelp? "party" = some reply ∧ r.Shows { commands } reply ∧
        Ascending reply.commands := by
  intro commands r
  have hget : r.corpus.get? "party" = some { commands } := by decide
  have hne : commands ≠ [] := List.cons_ne_nil _ _
  have hkeeps : KeepsOrder "hal" commands :=
    ⟨by decide +kernel, by decide +kernel, by decide +kernel⟩
  obtain ⟨⟨reply, hreply, hshows, hiff, -⟩, -⟩ :=
    scriptHelp?_ascending_iff r "party" { commands } hget hne
  exact ⟨hget, hne, reply, hreply, hshows, hiff.mpr hkeeps⟩

/-- The robot `zed` shows `zed hi` before `ping`. -/
theorem not_ascending_zed :
    let r := { withScript "greet" ["hubot hi", "ping"] with robotName := "zed" }
    ("greet", { commands := ["hubot hi", "ping"] }) ∈ r.corpus.entries ∧
      ∃ reply, r.scriptHelp? "greet" = some reply ∧ reply.commands = ["zed hi", "ping"] ∧
        ¬ Ascending reply.commands := by
  intro r
  have hmem : ("greet", { commands := ["hubot hi", "ping"] }) ∈ r.corpus.entries := by decide
  obtain ⟨reply, hreply, -, hcommands⟩ := scriptHelp?_of_mem hmem (List.cons_ne_nil _ _)
  have hordered : ["hubot hi", "ping"].Pairwise fun a b => decide (a ≤ b) = true := by decide
  have hrenamed : r.rename ["hubot hi", "ping"] = ["zed hi", "ping"] := by decide +kernel
  rw [List.mergeSort_of_pairwise hordered, hrenamed] at hcommands
  refine ⟨hmem, reply, hreply, hcommands, ?_⟩
  rw [hcommands, Ascending]
  decide

end ScriptHelp.Responder
