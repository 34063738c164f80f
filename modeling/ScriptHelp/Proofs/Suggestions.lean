import ScriptHelp.Proofs.Addresses
import ScriptHelp.Proofs.Listings
import ScriptHelp.Proofs.TrimmedTexts

namespace ScriptHelp

namespace Config

open Text

variable {c : Config} {e : Environment} {key t v : String} {f : Number.IntegerFault}

structure IsName (name : String) : Prop where
  ne_empty : name ≠ ""
  trimmed : Trimmed name.toList

structure Usable (c : Config) : Prop where
  limit_pos : 1 ≤ c.catchAllLimit
  name : IsName c.robotName
  otherName : ∀ name ∈ c.robotAlias, IsName name

theorem isName_of_strip? (h : strip? v = some t) : IsName t := by
  obtain ⟨rfl, hne⟩ := strip?_eq_some_iff.mp h
  refine ⟨hne, ?_⟩
  rw [strip, String.toList_ofList]
  exact trimmed_trim v.toList

theorem isName_of_textSetting? (h : textSetting? e key = some t) : IsName t := by
  obtain ⟨v, -, hv⟩ := Option.bind_eq_some_iff.mp h
  exact isName_of_strip? hv

theorem isName_defaultName : IsName defaultName := by
  have hne : defaultName ≠ "" := by decide
  have hstrip : strip? defaultName = some defaultName := by decide
  exact isName_of_strip? hstrip

theorem usable_ofEnvironment (e : Environment) : (ofEnvironment e).Usable where
  limit_pos := Int.le_max_left 1 _
  name := by
    change IsName ((textSetting? e nameVariable).getD defaultName)
    cases h : textSetting? e nameVariable with
    | none => exact isName_defaultName
    | some t => exact isName_of_textSetting? h
  otherName := fun _ ha => isName_of_textSetting? ha

theorem catchAllLimit_of_fault (hv : e.lookup limitVariable = some v)
    (hf : Number.readInteger v = .error f) : (ofEnvironment e).catchAllLimit = defaultLimit := by
  have hsetting : integerSetting? e limitVariable = none := by
    rw [integerSetting?, hv, Option.bind_some, hf]
    rfl
  change max 1 ((integerSetting? e limitVariable).getD defaultLimit) = defaultLimit
  rw [hsetting]
  rfl

end Config

namespace Responder

variable {r : Responder} {message rest : String} {found : List String}

/-- A positive limit keeps that many commands. -/
theorem limited_eq_take {limit : Int} (h : 1 ≤ limit) (found : List String) :
    limited limit found = found.take (min limit.toNat found.length) := by
  have hnonneg : ¬ limit < 0 := by omega
  rw [limited, if_neg hnonneg, List.take_eq_take_iff]
  omega

theorem intercalate_lines (first : String) (lines : List String) :
    String.intercalate "\n" (first :: lines) = first ++ String.join (lines.map ("\n" ++ ·)) := by
  induction lines generalizing first with
  | nil => simp
  | cons line lines ih =>
    rw [String.intercalate_cons_cons, ih, List.map_cons, String.join_cons]
    simp only [String.append_assoc]

def suggestionHeading : String := "Sorry, I didn't catch that.  Try one of these?"

theorem suggestion_text (h : found ≠ []) : (r.suggestion found).text =
    suggestionHeading ++ String.join ((r.suggestion found).commands.map ("\n* " ++ ·)) := by
  cases found with
  | nil => contradiction
  | cons command found =>
    have hlines : ∀ commands : List String, (commands.map ("* " ++ ·)).map ("\n" ++ ·) =
        commands.map ("\n* " ++ ·) := by
      intro commands
      rw [List.map_map]
      refine List.map_congr_left fun c _ => ?_
      rw [Function.comp_apply, ← String.append_assoc]
      rfl
    rw [← hlines, ← intercalate_lines]
    rfl

/-- The reply when commands have been found: the first ones, in the order found, each on a line of
its own. -/
structure Suggests (r : Responder) (found : List String) (reply : Reply) : Prop where
  kind : reply.kind = .catchAll
  commands : ∃ k : Nat, (k : Int) = min r.limit found.length ∧ 1 ≤ k ∧
    reply.commands = (found.take k).map (renameOne r.robotName)
  text : reply.text = suggestionHeading ++ String.join (reply.commands.map ("\n* " ++ ·))

theorem suggests_suggestion (hlimit : 1 ≤ r.limit) (hfound : found ≠ []) :
    r.Suggests found (r.suggestion found) where
  kind := by
    cases found with
    | nil => contradiction
    | cons command found => rfl
  commands := by
    have hlength : 1 ≤ found.length := List.length_pos_iff.mpr hfound
    -- the limit is not negative, so it counts from the front
    refine ⟨min r.limit.toNat found.length, by omega, by omega, ?_⟩
    rw [commands_suggestion, limited_eq_take hlimit]
    rfl
  text := suggestion_text hfound

theorem suggests_of_remainder? (hlimit : 1 ≤ r.limit)
    (hrest : Address.remainder? r.names message = some rest)
    (hsearch : r.index.search rest = .ok found) (hfound : found ≠ []) :
    ∃ reply, r.catchAll message = .ok (some reply) ∧ r.Suggests found reply := by
  refine ⟨r.suggestion found, ?_, suggests_suggestion hlimit hfound⟩
  rw [catchAll_of_remainder? hrest, hsearch]
  rfl

end Responder

namespace Snapshot

/-- Every environment gives usable settings, and the robot suggests commands to every message
addressed to it if the search finds any. -/
theorem load_suggests (host : Host) (e : Environment) :
    let c := Config.ofEnvironment e
    let r := (load host e).responder
    c.Usable ∧
    (∀ v f, e.lookup Config.limitVariable = some v → Number.readInteger v = .error f →
      c.catchAllLimit = 5) ∧
    r.limit = c.catchAllLimit ∧ r.robotName = c.robotName ∧
    ∀ message rest found, Address.remainder? r.names message = some rest →
      r.index.search rest = .ok found → found ≠ [] →
      ∃ reply, r.catchAll message = .ok (some reply) ∧ r.Suggests found reply := by
  intro c r
  have husable : c.Usable := Config.usable_ofEnvironment e
  have hlimit : r.limit = c.catchAllLimit := rfl
  refine ⟨husable, fun v f => Config.catchAllLimit_of_fault, hlimit, rfl, ?_⟩
  intro message rest found hrest hsearch hfound
  refine Responder.suggests_of_remainder? ?_ hrest hsearch hfound
  rw [hlimit]
  exact husable.limit_pos

/-- Two commands are found and ten may be suggested. A limit with two underscores between its digits
is malformed. -/
theorem load_suggests_two :
    let script := "# Commands:\n# hubot ping\n# hubot ping twice"
    let scripts := [("ping.py", .file (Text.Utf8.encode script))]
    let host : Host := { tree := .dir [("scripts", .dir scripts)], stack := ⟨9, 9, 9⟩ }
    let e := [(Config.limitVariable, " +1_0 "), (Config.nameVariable, "\thal ")]
    let e' := [(Config.limitVariable, " +1__0 ")]
    let r := (load host e).responder
    (Config.ofEnvironment e).catchAllLimit = 10 ∧ (Config.ofEnvironment e').catchAllLimit = 5 ∧
      Address.remainder? r.names "Hal ping" = some "ping" ∧
      r.index.search "ping" = .ok ["hubot ping", "hubot ping twice"] ∧
      ∃ reply, r.catchAll "Hal ping" = .ok (some reply) ∧
        r.Suggests ["hubot ping", "hubot ping twice"] reply := by
  intro script scripts host e e' r
  have hlimit : (Config.ofEnvironment e).catchAllLimit = 10 := by decide +kernel
  have hfault : Number.readInteger " +1__0 " = .error .malformed := by decide +kernel
  have hrest : Address.remainder? r.names "Hal ping" = some "ping" := by decide +kernel
  have hsearch : r.index.search "ping" = .ok ["hubot ping", "hubot ping twice"] := by
    decide +kernel
  obtain ⟨-, hdefault, -⟩ := load_suggests host e'
  obtain ⟨-, -, -, -, hsuggests⟩ := load_suggests host e
  exact ⟨hlimit, hdefault _ _ rfl hfault, hrest, hsearch,
    hsuggests "Hal ping" "ping" _ hrest hsearch (List.cons_ne_nil _ _)⟩

end Snapshot

end ScriptHelp
