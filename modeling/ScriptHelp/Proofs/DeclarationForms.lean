import Mathlib.Data.List.Permutation
import ScriptHelp.Proofs.FailingSources

namespace ScriptHelp

open Text

namespace Declaration

/-- The object has the names of a list, each at its first place, and under every name a list that
contains `*`. -/
structure Mirrors (fs : List (CodePoints × Json CodePoints)) (ns : List CodePoints) : Prop where
  names : Record.FirstsOf (fs.map (·.1)) ns
  every : ∀ f ∈ fs, ∃ js, f.2 = .arr js ∧ .str everyScript ∈ js

variable {fs : List (CodePoints × Json CodePoints)} {ns : List CodePoints} {ds : List Declaration}

theorem strings?_eq_some_iff {js : List (Json CodePoints)} :
    strings? js = some ns ↔ ns.map .str = js := by
  induction js generalizing ns with
  | nil => cases ns <;> simp [strings?]
  | cons j js ih =>
    cases j with
    | str s =>
      cases ns with
      | nil => simp [strings?]
      | cons n ns =>
        have hcomm : s = n ↔ n = s := eq_comm
        simp [strings?, ih, hcomm, and_comm]
    | _ => cases ns <;> simp [strings?]

theorem restriction?_of_every {js : List (Json CodePoints)} (h : .str everyScript ∈ js)
    (n : CodePoints) :
    restriction? ⟨n, some (js.map Json.spelled)⟩ = none := by
  have hmem : everyScript ∈ js.map Json.spelled := List.mem_map_of_mem h
  simp only [restriction?, Option.bind_some, List.contains_iff_mem.mpr hmem, if_true]

theorem exists_lists? (h : ∀ f ∈ fs, ∃ js, f.2 = .arr js ∧ .str everyScript ∈ js) :
    ∃ ds, lists? fs = some ds ∧ ds.map (·.package) = fs.map (·.1) ∧
      ∀ d ∈ ds, d.restriction? = none := by
  induction fs with
  | nil => exact ⟨[], rfl, rfl, by simp⟩
  | cons f fs ih =>
    obtain ⟨n, j⟩ := f
    rw [List.forall_mem_cons] at h
    obtain ⟨⟨js, rfl, hjs⟩, hfs⟩ := h
    obtain ⟨ds, hds, hpackages, hnone⟩ := ih hfs
    refine ⟨⟨n, some (js.map Json.spelled)⟩ :: ds, ?_, ?_, ?_⟩
    · rw [lists?, hds, Option.map_some]
    · rw [List.map_cons, hpackages, List.map_cons]
    · rw [List.forall_mem_cons]
      exact ⟨restriction?_of_every hjs n, hnone⟩

/-- The keys of the object are the names that the list declares. -/
theorem Mirrors.names_eq (h : Mirrors fs ns) : fs.map (·.1) = Record.firsts ns :=
  h.names.eq_firsts

end Declaration

namespace Bot

open FileTree Declaration

variable {b : Bot} {ds : List Declaration} {d : Declaration}

/-- Unrestricted declarations of the same package load the same. -/
theorem packageSource_of_unrestricted (b : Bot) (h : d.restriction? = none) :
    b.packageSource d = b.packageSource ⟨d.package, none⟩ := by
  have hnone : restriction? ⟨d.package, none⟩ = none := rfl
  simp only [packageSource, Package.selected, h, hnone]

theorem packageSources_of_unrestricted (b : Bot) (h : ∀ d ∈ ds, d.restriction? = none) :
    ds.map b.packageSource = (ds.map (·.package)).map fun n => b.packageSource ⟨n, none⟩ := by
  rw [List.map_map]
  exact List.map_congr_left fun d hd => b.packageSource_of_unrestricted (h d hd)

/-- A list of packages loads the same as an object that maps each of them to any list containing
`*`. -/
theorem load_object_eq_load_list (host : Host) (place : Path) (limit : TimeLimit)
    {ns : List CodePoints} {fs : List (CodePoints × Json CodePoints)} {text text' : List Char}
    {new : Bytes} :
    let b : Bot := ⟨host, place.resolve, limit⟩
    let depth := b.host.stack.declaration
    b.host.tree.readText b.declarationPath = .ok text →
    Json.read depth text = .ok (.ofStrings ns) → textOf new = .ok text' →
    Json.read depth text' = .ok (.obj fs) → Mirrors fs ns →
    (b.withTree (b.host.tree.write b.declarationPath (.file new))).load = b.load := by
  intro b depth htext hlist hnew hobject hmirrors
  cases hlimit : limit.expired with
  | true => exact load_expired hlimit _
  | false =>
    obtain ⟨ds, hds, hpackages, hnone⟩ := exists_lists? hmirrors.every
    have hnames : ofJson? (.ofStrings ns) = some ((Record.firsts ns).map (⟨·, none⟩)) := by
      rw [Json.ofStrings, ofJson?, strings?_eq_some_iff.mpr rfl, Option.map_some]
    -- the two texts declare different things, but these come to the same sources
    have hsources : ds.map b.packageSource =
        ((Record.firsts ns).map (⟨·, none⟩)).map b.packageSource := by
      rw [packageSources_of_unrestricted b hnone, hpackages, hmirrors.names_eq, List.map_map]
      rfl
    rw [load_written rfl htext hlist hnew hobject hds hlimit, load_eq b hlimit,
      sources_of_declarations (declarations_of_read htext hlist hnames), hsources]

/-- A list that repeats a package, and an object with a number and a script beside `*`. -/
theorem load_object_eq_load_list_memeBot :
    let listed := Utf8.encode "[\"hubot-meme\", \"hubot-x\", \"hubot-meme\"]"
    let object := Utf8.encode
      "\x7b\"hubot-meme\": [7, \"*\"], \"hubot-x\": [\"*\", \"ping\"]\x7d"
    let tree := memeBot.host.tree.write memeBot.declarationPath (.file listed)
    let b : Bot := ⟨{ memeBot.host with tree }, Path.root.resolve, .default⟩
    b.host.tree.readText b.declarationPath =
        .ok "[\"hubot-meme\", \"hubot-x\", \"hubot-meme\"]".toList ∧
      Mirrors [("hubot-meme", .arr [.int 7, .str "*"]), ("hubot-x", .arr [.str "*", .str "ping"])]
        ["hubot-meme", "hubot-x", "hubot-meme"] ∧
      (b.withTree (b.host.tree.write b.declarationPath (.file object))).load = b.load := by
  intro listed object tree b
  have htext : b.host.tree.readText b.declarationPath =
      .ok "[\"hubot-meme\", \"hubot-x\", \"hubot-meme\"]".toList := by decide +kernel
  have hlist : Json.read 9 "[\"hubot-meme\", \"hubot-x\", \"hubot-meme\"]".toList =
      .ok (.ofStrings ["hubot-meme", "hubot-x", "hubot-meme"]) := by cbv
  have hnew : textOf object =
      .ok "\x7b\"hubot-meme\": [7, \"*\"], \"hubot-x\": [\"*\", \"ping\"]\x7d".toList := by
    decide +kernel
  have hobject :
      Json.read 9 "\x7b\"hubot-meme\": [7, \"*\"], \"hubot-x\": [\"*\", \"ping\"]\x7d".toList =
        .ok (.obj [("hubot-meme", .arr [.int 7, .str "*"]),
          ("hubot-x", .arr [.str "*", .str "ping"])]) := by cbv
  have hmirrors : Mirrors
      [("hubot-meme", .arr [.int 7, .str "*"]), ("hubot-x", .arr [.str "*", .str "ping"])]
      ["hubot-meme", "hubot-x", "hubot-meme"] := by
    refine ⟨⟨by decide, fun a => ?_⟩, by simp [everyScript]⟩
    simp only [List.map_cons, List.map_nil, List.mem_cons, List.not_mem_nil, or_false]
    grind
  exact ⟨htext, hmirrors,
    load_object_eq_load_list b.host .root .default htext hlist hnew hobject hmirrors⟩

end Bot

end ScriptHelp
