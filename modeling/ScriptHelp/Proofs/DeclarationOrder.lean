import ScriptHelp.Proofs.DeclarationForms

namespace ScriptHelp

open Text

namespace Record

theorem firsts_perm {α : Type} [DecidableEq α] {xs ys : List α} (h : xs.Perm ys) :
    (firsts xs).Perm (firsts ys) := by
  rw [List.perm_ext_iff_of_nodup (nodup_firsts xs) (nodup_firsts ys)]
  intro a
  rw [mem_firsts, mem_firsts, h.mem_iff]

theorem mem_get_mergeAll {rs : List Record} {m : Record} (h : mergeAll rs = some m) (s : Section)
    (l : String) : l ∈ m.get s ↔ ∃ r ∈ rs, l ∈ r.get s := by
  match rs with
  | [] => exact absurd h (by simp [mergeAll])
  | [r] =>
    obtain rfl : r = m := Option.some.inj h
    simp
  | a :: b :: rs =>
    have htwo : 2 ≤ (a :: b :: rs).length := by simp
    obtain ⟨m', hm', hfirsts⟩ := mergeAll_of_two_le htwo
    obtain rfl : m' = m := Option.some.inj (hm'.symm.trans h)
    rw [(hfirsts s).2, List.mem_flatMap]

/-- Records merged in two orders have the same lines in each section. -/
theorem mem_get_mergeAll_perm {rs rs' : List Record} {m m' : Record} (hperm : rs'.Perm rs)
    (h : mergeAll rs = some m) (h' : mergeAll rs' = some m') (s : Section) (l : String) :
    l ∈ m'.get s ↔ l ∈ m.get s := by
  simp only [mem_get_mergeAll h, mem_get_mergeAll h', hperm.mem_iff]

end Record

namespace Corpus

variable {es es' : List (String × Record)} {r r' : Record}

theorem under_perm (h : es'.Perm es) (k : String) : (under k es').Perm (under k es) :=
  (h.filter _).map _

theorem names_collect_perm (h : es'.Perm es) : (collect es').names.Perm (collect es).names := by
  rw [names_collect, names_collect]
  exact Record.firsts_perm (h.map _)

theorem mem_get_collect_perm (h : es'.Perm es) {k : String} (hr : (collect es).get? k = some r)
    (hr' : (collect es').get? k = some r') (s : Section) (l : String) :
    l ∈ r'.get s ↔ l ∈ r.get s := by
  rw [get?_collect] at hr hr'
  exact Record.mem_get_mergeAll_perm (under_perm h k) hr hr' s l

/-- A lone contribution is unaffected by the order. -/
theorem get?_collect_lone (h : es'.Perm es) {k : String} (hlone : under k es = [r]) :
    (collect es').get? k = (collect es).get? k := by
  have hsame : under k es' = [r] := List.perm_singleton.mp (hlone ▸ under_perm h k)
  rw [get?_collect, get?_collect, hlone, hsame]

end Corpus

namespace Loaded

/-- The same keys, under each of them the same lines in each section, and the same errors, up to
order. -/
structure SameButOrder (l l' : Loaded) : Prop where
  names : l'.corpus.names.Perm l.corpus.names
  lines : ∀ {k r r'}, l.corpus.get? k = some r → l'.corpus.get? k = some r' → ∀ s,
    (r'.get s = [] ↔ r.get s = []) ∧ ∀ line, line ∈ r'.get s ↔ line ∈ r.get s
  errors : l'.errors.Perm l.errors

theorem SameButOrder.refl (l : Loaded) : l.SameButOrder l where
  names := .refl _
  lines hr hr' s := by
    obtain rfl := Option.some.inj (hr.symm.trans hr')
    exact ⟨.rfl, fun _ => .rfl⟩
  errors := .refl _

theorem ofSources_perm (t : FileTree) {ss ss' : List Source} (h : ss'.Perm ss) :
    (ofSources t ss).SameButOrder (ofSources t ss') := by
  have hcontributions := h.flatMap_right (Source.contributions t)
  refine ⟨Corpus.names_collect_perm hcontributions, ?_, h.flatMap_right (Source.failures t)⟩
  intro k r r' hr hr' s
  have hlines := Corpus.mem_get_collect_perm hcontributions hr hr' s
  refine ⟨?_, hlines⟩
  simp only [List.eq_nil_iff_forall_not_mem, hlines]

end Loaded

def Json.Reordered : Json CodePoints → Json CodePoints → Prop
  | .arr js, .arr js' => js'.Perm js
  | .obj fs, .obj fs' => fs'.Perm fs
  | _, _ => False

namespace Declaration

variable {fs : List (CodePoints × Json CodePoints)} {ds : List Declaration} {j j' : Json CodePoints}

def ofScripts (g : CodePoints × List (Json CodePoints)) : Declaration :=
  ⟨g.1, some (g.2.map Json.spelled)⟩

theorem lists?_eq_some_iff : lists? fs = some ds ↔
    ∃ gs : List (CodePoints × List (Json CodePoints)), gs.map (fun g => (g.1, .arr g.2)) = fs ∧
      gs.map ofScripts = ds := by
  constructor
  · intro h
    induction fs generalizing ds with
    | nil => exact ⟨[], rfl, Option.some.inj h⟩
    | cons f fs ih =>
      obtain ⟨n, j⟩ := f
      cases j with
      | arr js =>
        obtain ⟨es, hes, rfl⟩ := Option.map_eq_some_iff.mp h
        obtain ⟨gs, rfl, rfl⟩ := ih hes
        exact ⟨(n, js) :: gs, rfl, rfl⟩
      | _ => exact absurd h (by simp [lists?])
  · rintro ⟨gs, rfl, rfl⟩
    induction gs with
    | nil => rfl
    | cons g gs ih => rw [List.map_cons, lists?, ih, Option.map_some, List.map_cons, ofScripts]

/-- A reordered declaration declares the same packages. -/
theorem ofJson?_reordered (h : ofJson? j = some ds) (hj : j.Reordered j') :
    ∃ ds', ofJson? j' = some ds' ∧ ds'.Perm ds := by
  match j, j', hj with
  | .arr js, .arr js', hperm =>
    obtain ⟨ns, hns, rfl⟩ := Option.map_eq_some_iff.mp h
    obtain rfl := strings?_eq_some_iff.mp hns
    obtain ⟨ns', hns', hmap⟩ := Lists.exists_perm_of_map_perm hperm.symm
    refine ⟨(Record.firsts ns').map (⟨·, none⟩), ?_, (Record.firsts_perm hns').map _⟩
    rw [ofJson?, strings?_eq_some_iff.mpr hmap, Option.map_some]
  | .obj fs, .obj fs', hperm =>
    obtain ⟨gs, rfl, rfl⟩ := lists?_eq_some_iff.mp h
    obtain ⟨gs', hgs', hmap⟩ := Lists.exists_perm_of_map_perm hperm.symm
    exact ⟨gs'.map ofScripts, lists?_eq_some_iff.mpr ⟨gs', hmap, rfl⟩, hgs'.map _⟩

end Declaration

namespace Bot

open FileTree

/-- Reordering the declared packages changes only the order of what is loaded, and a key with a lone
contribution keeps its record. -/
theorem load_reordered (host : Host) (place : Path) (limit : TimeLimit) {text text' : List Char}
    {j j' : Json CodePoints} {ds : List Declaration} {new : Bytes} :
    let b : Bot := ⟨host, place.resolve, limit⟩
    let depth := b.host.stack.declaration
    b.host.tree.readText b.declarationPath = .ok text → Json.read depth text = .ok j →
    Declaration.ofJson? j = some ds → textOf new = .ok text' → Json.read depth text' = .ok j' →
    j.Reordered j' →
    let b' := b.withTree (b.host.tree.write b.declarationPath (.file new))
    b.load.SameButOrder b'.load ∧
      ∀ {k r}, Corpus.under k b.contributions = [r] →
        b'.load.corpus.get? k = b.load.corpus.get? k := by
  intro b depth htext hj hds hnew hj' hreordered b'
  cases hlimit : limit.expired with
  | true =>
    have hload : b'.load = b.load := load_expired hlimit _
    rw [hload]
    exact ⟨.refl _, fun _ => rfl⟩
  | false =>
    obtain ⟨ds', hds', hperm⟩ := Declaration.ofJson?_reordered hds hreordered
    have hsources := sources_of_declarations (declarations_of_read htext hj hds)
    have hload := load_eq b hlimit
    have hload' : b'.load = _ := load_written rfl htext hj hnew hj' hds' hlimit
    -- the bot's own directories stay in front, the packages change places
    have hsources' : (localDirectories.map b.localSource ++ ds'.map b.packageSource).Perm
        b.sources := hsources ▸ (hperm.map _).append_left _
    rw [hload, hload']
    refine ⟨Loaded.ofSources_perm _ hsources', fun {k r} hlone => ?_⟩
    exact Corpus.get?_collect_lone (hsources'.flatMap_right _) hlone

def twinBot : Bot where
  host := {
    tree := .dir [
      ("scripts", .dir [
        ("ping.py", .file (Utf8.encode "# Notes:\n# pong\n# pong"))]),
      ("node_modules", .dir [
        ("hubot-meme", .dir [
          ("index.js", .file (Utf8.encode "// Commands:\n// hubot meme\n// hubot one"))]),
        ("meme", .dir [
          ("index.js", .file (Utf8.encode "// Commands:\n// hubot two\n// hubot meme"))])]),
      ("external-scripts.json",
        .file (Utf8.encode "\x7b\"hubot-meme\": [\"*\"], \"x\": [], \"meme\": [\"*\"]\x7d"))]
    stack := ⟨9, 9, 9⟩ }
  cwd := Path.root.resolve
  limit := .default

theorem load_reordered_twinBot :
    let text := "\x7b\"hubot-meme\": [\"*\"], \"x\": [], \"meme\": [\"*\"]\x7d".toList
    let new := Utf8.encode "\x7b\"meme\": [\"*\"], \"x\": [], \"hubot-meme\": [\"*\"]\x7d"
    let b' := twinBot.withTree (twinBot.host.tree.write twinBot.declarationPath (.file new))
    twinBot.host.tree.readText twinBot.declarationPath = .ok text ∧
      twinBot.load.SameButOrder b'.load ∧
      Corpus.under "ping" twinBot.contributions = [{ notes := ["pong", "pong"] }] ∧
      b'.load.corpus.get? "ping" = twinBot.load.corpus.get? "ping" := by
  intro text new b'
  have htext : twinBot.host.tree.readText twinBot.declarationPath = .ok text := by decide +kernel
  have hj : Json.read 9 "\x7b\"hubot-meme\": [\"*\"], \"x\": [], \"meme\": [\"*\"]\x7d".toList =
      .ok (.obj [("hubot-meme", .arr [.str "*"]), ("x", .arr []), ("meme", .arr [.str "*"])]) := by
    cbv
  have hnew : textOf new =
      .ok "\x7b\"meme\": [\"*\"], \"x\": [], \"hubot-meme\": [\"*\"]\x7d".toList := by
    decide +kernel
  have hj' : Json.read 9 "\x7b\"meme\": [\"*\"], \"x\": [], \"hubot-meme\": [\"*\"]\x7d".toList =
      .ok (.obj [("meme", .arr [.str "*"]), ("x", .arr []), ("hubot-meme", .arr [.str "*"])]) := by
    cbv
  have hreordered : Json.Reordered
      (.obj [("hubot-meme", .arr [.str "*"]), ("x", .arr []), ("meme", .arr [.str "*"])])
      (.obj [("meme", .arr [.str "*"]), ("x", .arr []), ("hubot-meme", .arr [.str "*"])]) :=
    List.reverse_perm [(codePoints "hubot-meme", Json.arr [.str (codePoints "*")]), ("x", .arr []),
      ("meme", .arr [.str "*"])]
  have hping : Corpus.under "ping" twinBot.contributions = [{ notes := ["pong", "pong"] }] := by
    decide +kernel
  obtain ⟨hload, hlone⟩ :=
    load_reordered twinBot.host .root twinBot.limit htext hj rfl hnew hj' hreordered
  exact ⟨htext, hload, hping, hlone hping⟩

end Bot

end ScriptHelp
