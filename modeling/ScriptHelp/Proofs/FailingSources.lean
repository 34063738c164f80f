import ScriptHelp.Proofs.DeclarationEdits
import ScriptHelp.Proofs.FileTexts
import ScriptHelp.Proofs.LoadOrder
import ScriptHelp.Proofs.TreeQueries

namespace ScriptHelp

open Text

namespace FileTree

/-- The file fails to be read in both trees for the same reason, or has the same record in both. -/
def SaysAlike (t u : FileTree) (p : Path) : Prop :=
  u.readText p = t.readText p ∨ ∃ x y, t.readText p = .ok x ∧ u.readText p = .ok y ∧
    Header.read (String.ofList x) = Header.read (String.ofList y)

end FileTree

namespace Source

variable {t u : FileTree} {s : Source}

theorem contribution?_congr {p : Path} (h : t.SaysAlike u p) :
    s.contribution? u p = s.contribution? t p ∧ s.unreadable? u p = s.unreadable? t p := by
  unfold contribution? unreadable?
  obtain h | ⟨x, y, hx, hy, hsame⟩ := h
  · rw [h]
    exact ⟨rfl, rfl⟩
  · rw [hx, hy]
    exact ⟨congrArg (fun r => some (s.key p, r)) hsame.symm, rfl⟩

/-- Sources whose files read alike in two trees contribute alike. -/
theorem congr (h : ∀ ps, s.files = .ok ps → ∀ p ∈ ps, t.SaysAlike u p) :
    s.contributions u = s.contributions t ∧ s.failures u = s.failures t := by
  unfold contributions failures
  cases hfiles : s.files with
  | error e => exact ⟨rfl, rfl⟩
  | ok ps =>
    refine ⟨List.filterMap_congr fun p hp => ?_, List.filterMap_congr fun p hp => ?_⟩
    · exact (contribution?_congr (h ps hfiles p hp)).1
    · exact (contribution?_congr (h ps hfiles p hp)).2

theorem ofSources_congr {ss : List Source}
    (h : ∀ s ∈ ss, ∀ ps, s.files = .ok ps → ∀ p ∈ ps, t.SaysAlike u p) :
    Loaded.ofSources u ss = Loaded.ofSources t ss := by
  have hcontributions : ss.flatMap (·.contributions u) = ss.flatMap (·.contributions t) := by
    rw [List.flatMap_def, List.flatMap_def, List.map_congr_left fun s hs => (congr (h s hs)).1]
  have hfailures : ss.flatMap (·.failures u) = ss.flatMap (·.failures t) := by
    rw [List.flatMap_def, List.flatMap_def, List.map_congr_left fun s hs => (congr (h s hs)).2]
  rw [Loaded.ofSources, Loaded.ofSources, hcontributions, hfailures]

/-- A source that fails as a whole adds its error and nothing else. -/
theorem ofSources_failing (t : FileTree) (xs ys : List Source) {e : SourceError}
    (h : s.files = .error e) :
    (Loaded.ofSources t (xs ++ s :: ys)).corpus = (Loaded.ofSources t (xs ++ ys)).corpus ∧
      (Loaded.ofSources t (xs ++ s :: ys)).errors =
        xs.flatMap (·.failures t) ++ e :: ys.flatMap (·.failures t) ∧
      (Loaded.ofSources t (xs ++ ys)).errors =
        xs.flatMap (·.failures t) ++ ys.flatMap (·.failures t) := by
  have hcontributions : s.contributions t = [] := by rw [contributions, h]
  have hfailures : s.failures t = [e] := by rw [failures, h]
  refine ⟨?_, ?_, List.flatMap_append⟩
  · simp only [Loaded.ofSources, List.flatMap_append, List.flatMap_cons, hcontributions,
      List.nil_append]
  · simp only [Loaded.ofSources, List.flatMap_append, List.flatMap_cons, hfailures,
      List.singleton_append]

end Source

structure FileTree.SameShape (t u : FileTree) : Prop where
  isFile : u.isFile = t.isFile
  isDir : u.isDir = t.isDir
  list : u.list = t.list

namespace Package

open FileTree

variable {h : Host} {t u : FileTree} {root : Path}

theorem find?_congr (hu : SameShape h.tree u) (cwd : Path) (package : CodePoints) :
    find? { h with tree := u } cwd package = find? h cwd package := by
  have hmoduleIn : Host.moduleIn? u = Host.moduleIn? h.tree := by
    funext name directory
    rw [Host.moduleIn?, Host.moduleIn?, hu.isFile]
  have hmodule : Host.findModule? { h with tree := u } = h.findModule? := by
    funext name
    rw [Host.findModule?, Host.findModule?, hmoduleIn, hu.isDir]
  simp only [find?, hmodule, hu.isDir]

theorem firstFile?_congr (h : SameShape t u) (ps : List Path) :
    firstFile? u ps = firstFile? t ps := by
  induction ps with
  | nil => rfl
  | cons p ps ih => rw [firstFile?, firstFile?, h.isFile, ih]

theorem keepScripts_congr (h : SameShape t u) (ps : List Path) :
    Script.keepScripts u ps = Script.keepScripts t ps := by
  induction ps with
  | nil => rfl
  | cons p ps ih => rw [Script.keepScripts, Script.keepScripts, h.isFile, ih]

theorem filesIn_congr (h : SameShape t u) (directory : Path) :
    Script.filesIn u directory = Script.filesIn t directory := by
  simp only [Script.filesIn, h.list, keepScripts_congr h]

theorem firstPlace?_congr (h : SameShape t u) (root : Path) (ns : List CodePoints) :
    firstPlace? u root ns = firstPlace? t root ns := by
  induction ns with
  | nil => rfl
  | cons n ns ih => rw [firstPlace?, firstPlace?, h.isDir, filesIn_congr h, ih]

theorem mainFile?_congr (hu : SameShape h.tree u) (hmanifest :
    u.readText (root.join "package.json") = h.tree.readText (root.join "package.json")) :
    mainFile? { h with tree := u } root = mainFile? h root := by
  have hfirst : firstFile? u = firstFile? h.tree := funext (firstFile?_congr hu)
  simp only [mainFile?, hu.isFile, hmanifest, hfirst]

theorem files_congr (hu : SameShape h.tree u) (hmanifest :
    u.readText (root.join "package.json") = h.tree.readText (root.join "package.json"))
    (restriction : Option (List CodePoints)) :
    files { h with tree := u } root restriction = files h root restriction := by
  have hplace : firstPlace? u root scriptPlaces = firstPlace? h.tree root scriptPlaces :=
    firstPlace?_congr hu root scriptPlaces
  have hentry : entryFile? { h with tree := u } root = entryFile? h root := by
    simp only [entryFile?, mainFile?_congr hu hmanifest, firstFile?_congr hu]
  simp only [files, hu.isFile, hplace, hentry]

/-- The selected files of a package do not depend on file contents, apart from its manifest. -/
theorem selected_congr (hu : SameShape h.tree u)
    (hmanifest : ∀ root : Path,
      u.readText (root.join "package.json") = h.tree.readText (root.join "package.json"))
    (cwd : Path) (decl : Declaration) :
    selected { h with tree := u } cwd decl = selected h cwd decl := by
  simp only [selected, find?_congr hu, files_congr hu (hmanifest _)]

end Package

theorem FileTree.Alike.sameShape {n : String} {old new : Bytes} {t u : FileTree}
    (h : FileTree.Alike n old (some new) t u) : FileTree.SameShape t u where
  isFile := funext fun _ => h.isFile (.inl (by simp))
  isDir := funext h.isDir
  list := funext (h.list (by simp))

namespace Bot

open FileTree

def withTree (b : Bot) (t : FileTree) : Bot := { b with host := { b.host with tree := t } }

def declarationPath (b : Bot) : Path := b.cwd.join declarationFile

/-- The bytes are not UTF-8, or not JSON, or JSON of an unexpected shape. -/
def Malformed (depth : Nat) (bytes : Bytes) : Prop :=
  ∀ text, textOf bytes = .ok text → ∀ j, Json.read depth text = .ok j →
    Declaration.ofJson? j = none

def WhitespaceOnly (bytes : Bytes) : Prop :=
  ∃ text, textOf bytes = .ok text ∧ text.all isWhitespace = true

def LosesOnly (e : SourceError) (l l' : Loaded) : Prop :=
  l'.corpus = l.corpus ∧
    ∃ before after, l.errors = before ++ e :: after ∧ l'.errors = before ++ after

variable {b : Bot} {place : Path} {t u : FileTree} {old new : Bytes} {text text' : List Char}
  {j : Json CodePoints} {d : Declaration} {ds : List Declaration} {cause : SourceCause} {p : Path}
  {depth : Nat} {ns : List String}

theorem join_declarationFile (p : Path) :
    p.join declarationFile = { p with names := p.names ++ [codePoints declarationFile] } :=
  join_name (by decide +kernel) p

theorem name_manifest (root : Path) : (root.join "package.json").name ≠ declarationFile := by
  rw [join_name plain_manifest, Path.name, List.getLastD_concat, ne_eq, CodePoints.codePoints_inj]
  decide

theorem declarations_of_read (h : b.host.tree.readText b.declarationPath = .ok text)
    (hj : Json.read b.host.stack.declaration text = .ok j)
    (hds : Declaration.ofJson? j = some ds) : b.declarations = .ok ds := by
  rw [declarationPath] at h
  simp only [declarations, h, Declaration.read_of_json hj hds]

theorem WhitespaceOnly.malformed (h : WhitespaceOnly old) (depth : Nat) : Malformed depth old := by
  intro text htext j hj
  obtain ⟨text', htext', hwhitespace⟩ := h
  obtain rfl : text' = text := Except.ok.inj (htext'.symm.trans htext)
  rw [Json.not_whitespace_of_read hj] at hwhitespace
  exact absurd hwhitespace (by decide)

theorem declarations_of_whitespace (h : b.host.tree.readBytes b.declarationPath = .ok old)
    (hold : WhitespaceOnly old) : b.declarations = .ok [] := by
  obtain ⟨text, ht, hwhitespace⟩ := hold
  have htext := readText_of_readBytes h
  rw [declarationPath] at htext
  simp only [declarations, htext, ht, Except.mapError, Declaration.read, hwhitespace, if_true]

theorem declarations_of_malformed (h : b.host.tree.readBytes b.declarationPath = .ok old)
    (hold : Malformed b.host.stack.declaration old) (hnot : ¬ WhitespaceOnly old) :
    ∃ cause, b.declarations = .error cause := by
  have htext := readText_of_readBytes h
  rw [declarationPath] at htext
  cases ht : textOf old with
  | error f =>
    refine ⟨.brokeDown (.decoding f), ?_⟩
    simp only [declarations, htext, ht, Except.mapError]
  | ok text =>
    have hshape := hold text ht
    have hwhitespace : text.all isWhitespace = false :=
      Bool.eq_false_iff.mpr fun hall => hnot ⟨text, ht, hall⟩
    simp only [declarations, htext, ht, Except.mapError, Declaration.read, hwhitespace,
      Bool.false_eq_true, if_false]
    cases hj : Json.read b.host.stack.declaration text with
    | ok j =>
      simp only [hshape j hj]
      exact ⟨_, rfl⟩
    | error f => cases f <;> exact ⟨_, rfl⟩

theorem load_expired (h : b.limit.expired = true) (t : FileTree) :
    (b.withTree t).load = b.load := by
  simp only [load, withTree, h, if_true]

theorem resolved_declaration (hb : b.cwd = place.resolve) :
    Path.parent ∉ b.declarationPath.names := by
  rw [declarationPath, join_declarationFile, List.mem_append, List.mem_singleton, not_or, hb]
  exact ⟨Path.not_mem_foldNames _, by decide +kernel⟩

theorem descend_declaration (hb : b.cwd = place.resolve)
    (h : b.host.tree.readBytes b.declarationPath = .ok old) : ∃ ns : List String,
      b.cwd.names = ns.map codePoints ∧
        b.declarationPath.names = (ns ++ [declarationFile]).map codePoints ∧
        descend (ns ++ [declarationFile]) b.host.tree = some (.file old) := by
  obtain ⟨ms, hms, hdescend⟩ := exists_descend_of_readBytes h (resolved_declaration hb)
  have hnames : b.cwd.names ++ [codePoints declarationFile] = ms.map codePoints := by
    rw [← hms, declarationPath, join_declarationFile]
  obtain ⟨ns, rest, rfl, hns, hrest⟩ := List.append_eq_map_iff.mp hnames
  obtain ⟨m, rfl, hm⟩ := List.map_eq_singleton_iff.mp hrest
  obtain rfl := CodePoints.codePoints_inj.mp hm
  exact ⟨ns, hns.symm, hms, hdescend⟩

theorem editedAt_write (hb : b.cwd = place.resolve)
    (h : b.host.tree.readBytes b.declarationPath = .ok old) (new : Bytes) :
    let u := b.host.tree.write b.declarationPath (.file new)
    (∃ ns, EditedAt declarationFile old (some new) ns b.host.tree u) ∧
      u.readBytes b.declarationPath = .ok new := by
  intro u
  have hdots := resolved_declaration hb
  obtain ⟨ns, -, hpath, hdescend⟩ := descend_declaration hb h
  have hu : u = put (.file new) (ns ++ [declarationFile]) (some b.host.tree) := by
    change b.host.tree.write b.declarationPath (.file new) = _
    rw [write, textNames?_of_text hpath hdots]
  have hedit : EditedAt declarationFile old (some new) ns b.host.tree u :=
    hu ▸ editedAt_put hdescend
  refine ⟨⟨ns, hedit⟩, ?_⟩
  obtain ⟨b', hb', hread⟩ | ⟨hnone, -⟩ := hedit.readBytes hpath hdots h
  · obtain rfl := Option.some.inj hb'
    exact hread
  · exact absurd hnone (by simp)

theorem editedAt_delete (hb : b.cwd = place.resolve)
    (h : b.host.tree.readBytes b.declarationPath = .ok old) :
    let u := b.host.tree.delete b.declarationPath
    (∃ ns : List String, b.cwd.names = ns.map codePoints ∧
        EditedAt declarationFile old none ns b.host.tree u) ∧
      u.readBytes b.declarationPath = .error ⟨.missing, b.declarationPath⟩ := by
  intro u
  have hdots := resolved_declaration hb
  obtain ⟨ns, hcwd, hpath, hdescend⟩ := descend_declaration hb h
  have hu : u = dropAt (ns ++ [declarationFile]) b.host.tree := by
    change b.host.tree.delete b.declarationPath = _
    rw [delete, textNames?_of_text hpath hdots]
  have hedit : EditedAt declarationFile old none ns b.host.tree u := hu ▸ editedAt_dropAt hdescend
  refine ⟨⟨ns, hcwd, hedit⟩, ?_⟩
  obtain ⟨b', hb', -⟩ | ⟨-, hread⟩ := hedit.readBytes hpath hdots h
  · exact absurd hb' (by simp)
  · exact hread

/-- A file that is JSON before and after the edit has an empty record as a script. -/
theorem saysAlike_write (h : Alike declarationFile old (some new) t u)
    (hold : textOf old = .ok text) (hj : Json.read depth text = .ok j)
    (hnew : textOf new = .ok text') {j' : Json CodePoints} (hj' : Json.read depth text' = .ok j')
    (p : Path) : t.SaysAlike u p := by
  obtain hsame | ⟨-, ht, hu⟩ := h.readBytes (p := p) (.inl (by simp))
  · exact .inl (readText_congr hsame)
  · refine .inr ⟨text, text', ?_, ?_, ?_⟩
    · rw [readText_of_readBytes ht, hold]
      rfl
    · rw [readText_of_readBytes (hu new rfl), hnew]
      rfl
    · rw [Json.header_of_read hj, Json.header_of_read hj']

theorem localSource_congr (h : SameShape b.host.tree u) (directory : String) :
    (b.withTree u).localSource directory = b.localSource directory := by
  simp only [localSource, withTree, Script.localFiles, h.list, Package.filesIn_congr h]

theorem packageSource_congr (h : Alike declarationFile old (some new) b.host.tree u)
    (d : Declaration) : (b.withTree u).packageSource d = b.packageSource d := by
  have hmanifest : ∀ root : Path,
      u.readText (root.join "package.json") = b.host.tree.readText (root.join "package.json") := by
    intro root
    obtain hsame | ⟨hname, -⟩ := h.readBytes (p := root.join "package.json") (.inl (by simp))
    · exact readText_congr hsame
    · exact absurd hname (name_manifest root)
  simp only [packageSource, withTree, Package.selected_congr h.sameShape hmanifest]

theorem files_of_load (h : Package.load b.host b.cwd d = .error cause) :
    (b.packageSource d).files = .error ⟨d.package, cause⟩ := by
  rw [Package.load_eq] at h
  rw [packageSource]
  cases hs : Package.selected b.host b.cwd d with
  | ok ps =>
    rw [hs] at h
    exact absurd h (by simp [Except.map])
  | error c =>
    rw [hs] at h
    obtain rfl := Except.error.inj h
    rfl

theorem sources_of_declarations (h : b.declarations = .ok ds) :
    b.sources = localDirectories.map b.localSource ++ ds.map b.packageSource := by
  rw [sources, packageSources, h]

/-- With another declaration a bot loads from the same files. -/
theorem load_written (hb : b.cwd = place.resolve)
    (htext : b.host.tree.readText b.declarationPath = .ok text)
    (hj : Json.read b.host.stack.declaration text = .ok j) (hnew : textOf new = .ok text')
    {j' : Json CodePoints} (hj' : Json.read b.host.stack.declaration text' = .ok j')
    (hds : Declaration.ofJson? j' = some ds) (hlimit : b.limit.expired = false) :
    (b.withTree (b.host.tree.write b.declarationPath (.file new))).load =
      .ofSources b.host.tree
        (localDirectories.map b.localSource ++ ds.map b.packageSource) := by
  obtain ⟨old, hread, hold⟩ := readBytes_of_readText htext
  obtain ⟨⟨ns, hedit⟩, hread'⟩ := editedAt_write hb hread new
  let u := b.host.tree.write b.declarationPath (.file new)
  have halike : Alike declarationFile old (some new) b.host.tree u := .inr ⟨ns, hedit⟩
  have htext' : (b.withTree u).host.tree.readText (b.withTree u).declarationPath = .ok text' := by
    refine (readText_of_readBytes hread').trans ?_
    rw [hnew]
    rfl
  have hdecl : (b.withTree u).declarations = .ok ds := declarations_of_read htext' hj' hds
  have hlocal : (b.withTree u).localSource = b.localSource :=
    funext (localSource_congr halike.sameShape)
  have hpackage : (b.withTree u).packageSource = b.packageSource :=
    funext (packageSource_congr halike)
  change (b.withTree u).load = _
  rw [load_eq (b.withTree u) hlimit, sources_of_declarations hdecl, hlocal, hpackage]
  -- the changed file may itself be read as a script, by a package whose main file it is
  exact Source.ofSources_congr fun s _ ps _ p _ => saysAlike_write halike hold hj hnew hj' p

/-- Removing the declaration of a failing package removes its error. -/
theorem load_without (hb : b.cwd = place.resolve)
    (htext : b.host.tree.readText b.declarationPath = .ok text)
    (hj : Json.read b.host.stack.declaration text = .ok j)
    (hds : Declaration.ofJson? j = some ds) (hd : d ∈ ds)
    (hfail : Package.load b.host b.cwd d = .error cause) (hnew : textOf new = .ok text')
    (hj' : Json.read b.host.stack.declaration text' = .ok (j.without d.package))
    (hlimit : b.limit.expired = false) :
    LosesOnly ⟨d.package, cause⟩ b.load
      (b.withTree (b.host.tree.write b.declarationPath (.file new))).load := by
  have hload' := load_written hb htext hj hnew hj'
    (Declaration.ofJson?_without d.package hds) hlimit
  -- no package is declared twice, so one source goes and those around it stay
  obtain ⟨xs, ys, rfl, hfilter⟩ :=
    Lists.exists_filter_ne (Declaration.nodup_of_read hj hds) hd
  let before := localDirectories.map b.localSource ++ xs.map b.packageSource
  have hload : b.load =
      .ofSources b.host.tree (before ++ b.packageSource d :: ys.map b.packageSource) := by
    rw [load_eq b hlimit, sources_of_declarations (declarations_of_read htext hj hds)]
    simp only [before, List.map_append, List.map_cons, List.append_assoc]
  rw [hfilter, List.map_append, ← List.append_assoc] at hload'
  obtain ⟨hcorpus, herrors, herrors'⟩ :=
    Source.ofSources_failing b.host.tree before (ys.map b.packageSource) (files_of_load hfail)
  rw [hload, hload']
  exact ⟨hcorpus.symm, _, _, herrors, herrors'⟩

theorem isScript_of_mem {t : FileTree} {source : String} {directory : Path} {ps : List Path}
    (h : Script.localFiles t source directory = .ok ps) (hp : p ∈ ps) :
    Script.isScript t p = true := by
  obtain ⟨-, -, -, rfl⟩ | ⟨names, -, -, rfl⟩ := Script.localFiles_eq_ok h
  · exact absurd hp List.not_mem_nil
  · exact (List.mem_filter.mp hp).2

theorem not_isScriptName : Script.isScriptName declarationFile = false := by decide +kernel

theorem keepScripts_delete (h : Alike declarationFile old none t u) (ps : List Path) :
    Script.keepScripts u ps = Script.keepScripts t ps := by
  induction ps with
  | nil => rfl
  | cons p ps ih =>
    rw [Script.keepScripts, Script.keepScripts, ih]
    obtain hsame | ⟨-, hname, ht, hu⟩ := h.isFile_cases p
    · rw [hsame]
    · rw [ht, hu, hname, not_isScriptName]
      rfl

/-- No script directory is inside the declaration file. -/
theorem list_delete (hdots : Path.parent ∉ b.cwd.names) (hcwd : b.cwd.names = ns.map codePoints)
    (h : EditedAt declarationFile old none ns t u) {directory : String}
    (hmem : directory ∈ localDirectories) :
    u.list (b.cwd.join directory) = t.list (b.cwd.join directory) := by
  have hnames : ∃ (k : CodePoints) (rest : List CodePoints),
      (b.cwd.join directory).names = b.cwd.names ++ k :: rest ∧
        k ≠ declarationFile ∧ Path.parent ∉ k :: rest := by
    rcases List.mem_cons.mp hmem with rfl | hmem
    · exact ⟨"scripts", [], rfl, by decide, by decide⟩
    · obtain rfl := List.mem_singleton.mp hmem
      exact ⟨"src", ["scripts"], rfl, by decide, by decide⟩
  obtain ⟨k, rest, hjoin, hk, hrest⟩ := hnames
  have hparent : Path.parent ∉ (b.cwd.join directory).names := by
    rw [hjoin, List.mem_append, not_or]
    exact ⟨hdots, hrest⟩
  rw [hcwd] at hjoin
  exact h.list hk hjoin hparent

theorem localSource_delete (hdots : Path.parent ∉ b.cwd.names)
    (hcwd : b.cwd.names = ns.map codePoints)
    (h : EditedAt declarationFile old none ns b.host.tree u) {directory : String}
    (hmem : directory ∈ localDirectories) :
    (b.withTree u).localSource directory = b.localSource directory := by
  have hlist := list_delete hdots hcwd h hmem
  have hfiles : Script.filesIn u (b.cwd.join directory) =
      Script.filesIn b.host.tree (b.cwd.join directory) := by
    have hkeep : Script.keepScripts u = Script.keepScripts b.host.tree :=
      funext (keepScripts_delete (.inr ⟨ns, h⟩))
    rw [Script.filesIn, Script.filesIn, hlist, hkeep]
  simp only [localSource, withTree, Script.localFiles, hlist, hfiles]

theorem saysAlike_delete (h : Alike declarationFile old none t u)
    (hp : Script.isScript t p = true) : t.SaysAlike u p := by
  rw [Script.isScript, Bool.and_eq_true] at hp
  obtain ⟨hname, hfile⟩ := hp
  have hisFile : t.isFile p = .ok true := by
    cases hf : t.isFile p with
    | error e =>
      rw [hf] at hfile
      exact absurd hfile (by simp [Except.toOption])
    | ok isFile =>
      rw [hf] at hfile
      simpa [Except.toOption] using hfile
  obtain hsame | ⟨hdecl, -⟩ := h.readBytes (.inr hisFile)
  · exact .inl (readText_congr hsame)
  · rw [hdecl, not_isScriptName] at hname
    exact absurd hname (by simp)

/-- Deleting the declaration file leaves the bot's own directories. -/
theorem load_deleted (hb : b.cwd = place.resolve)
    (hread : b.host.tree.readBytes b.declarationPath = .ok old) (hlimit : b.limit.expired = false) :
    (b.withTree (b.host.tree.delete b.declarationPath)).load =
      .ofSources b.host.tree (localDirectories.map b.localSource) := by
  obtain ⟨⟨ns, hcwd, hedit⟩, hmissing⟩ := editedAt_delete hb hread
  let u := b.host.tree.delete b.declarationPath
  have hdots : Path.parent ∉ b.cwd.names := hb ▸ Path.not_mem_foldNames _
  have hdecl : (b.withTree u).declarations = .ok [] := by
    have htext : u.readText b.declarationPath = .error (.file ⟨.missing, b.declarationPath⟩) := by
      rw [readText, hmissing]
    rw [declarationPath] at htext
    simp only [declarations, withTree, htext, if_true]
  have hsources : (b.withTree u).sources = localDirectories.map b.localSource := by
    have hlocals : localDirectories.map (b.withTree u).localSource =
        localDirectories.map b.localSource :=
      List.map_congr_left fun directory hmem => localSource_delete hdots hcwd hedit hmem
    rw [sources_of_declarations hdecl, hlocals]
    exact List.append_nil _
  change (b.withTree u).load = _
  rw [load_eq (b.withTree u) hlimit, hsources]
  apply Source.ofSources_congr
  intro s hs ps hps p hp
  obtain ⟨directory, -, rfl⟩ := List.mem_map.mp hs
  exact saysAlike_delete (.inr ⟨ns, hedit⟩) (isScript_of_mem hps hp)

/-- A malformed declaration loads as if it were deleted, with one error at the end. -/
theorem load_malformed (hb : b.cwd = place.resolve)
    (hread : b.host.tree.readBytes b.declarationPath = .ok old)
    (hold : Malformed b.host.stack.declaration old) (hnot : ¬ WhitespaceOnly old)
    (hlimit : b.limit.expired = false) :
    let l' := (b.withTree (b.host.tree.delete b.declarationPath)).load
    l'.corpus = b.load.corpus ∧
      ∃ cause, b.load.errors = l'.errors ++ [⟨declarationFile, cause⟩] := by
  intro l'
  obtain ⟨cause, hcause⟩ := declarations_of_malformed hread hold hnot
  let locals := localDirectories.map b.localSource
  let failing : Source :=
    { name := declarationFile, files := .error ⟨declarationFile, cause⟩, key := (·.name.shown) }
  have hsources : b.sources = locals ++ failing :: [] := by
    rw [sources, packageSources, hcause]
  have hload' : l' = .ofSources b.host.tree (locals ++ []) := by
    rw [List.append_nil]
    exact load_deleted hb hread hlimit
  have hfailing : failing.files = .error ⟨declarationFile, cause⟩ := rfl
  obtain ⟨hcorpus, herrors, herrors'⟩ := Source.ofSources_failing b.host.tree locals [] hfailing
  rw [hload', load_eq b hlimit, hsources]
  refine ⟨hcorpus.symm, cause, ?_⟩
  rw [herrors, herrors', List.flatMap_nil, List.append_nil]

/-- A declaration of whitespace loads as if it were deleted. -/
theorem load_whitespace (hb : b.cwd = place.resolve)
    (hread : b.host.tree.readBytes b.declarationPath = .ok old) (hold : WhitespaceOnly old) :
    (b.withTree (b.host.tree.delete b.declarationPath)).load = b.load := by
  cases hlimit : b.limit.expired with
  | true => exact load_expired hlimit _
  | false =>
    have hsources : b.sources = localDirectories.map b.localSource := by
      rw [sources_of_declarations (declarations_of_whitespace hread hold)]
      exact List.append_nil _
    rw [load_deleted hb hread hlimit, load_eq b hlimit, hsources]

structure Isolates (b : Bot) : Prop where
  package : ∀ {text text' : List Char} {j ds d cause new},
    b.host.tree.readText b.declarationPath = .ok text →
    Json.read b.host.stack.declaration text = .ok j → Declaration.ofJson? j = some ds → d ∈ ds →
    Package.load b.host b.cwd d = .error cause → textOf new = .ok text' →
    Json.read b.host.stack.declaration text' = .ok (j.without d.package) →
    let b' := b.withTree (b.host.tree.write b.declarationPath (.file new))
    if b.limit.expired then b'.load = b.load else LosesOnly ⟨d.package, cause⟩ b.load b'.load
  declaration : ∀ {old}, b.host.tree.readBytes b.declarationPath = .ok old →
    Malformed b.host.stack.declaration old → ¬ WhitespaceOnly old →
    let b' := b.withTree (b.host.tree.delete b.declarationPath)
    if b.limit.expired then b'.load = b.load
    else b'.load.corpus = b.load.corpus ∧
      ∃ cause, b.load.errors = b'.load.errors ++ [⟨declarationFile, cause⟩]
  whitespace : ∀ {old}, b.host.tree.readBytes b.declarationPath = .ok old → WhitespaceOnly old →
    (b.withTree (b.host.tree.delete b.declarationPath)).load = b.load

/-- Removing the declaration of a failing package leaves the corpus and removes one error. A
malformed declaration loads as if it were deleted, with one error more, and one of whitespace
without. -/
theorem isolates (host : Host) (place : Path) (limit : TimeLimit) :
    (⟨host, place.resolve, limit⟩ : Bot).Isolates := by
  refine ⟨?_, ?_, load_whitespace rfl⟩
  · intro text text' j ds d cause new htext hj hds hd hfail hnew hj' b'
    split_ifs with hlimit
    · exact load_expired hlimit _
    · exact load_without rfl htext hj hds hd hfail hnew hj' (Bool.not_eq_true _ ▸ hlimit)
  · intro old hread hold hnot b'
    split_ifs with hlimit
    · exact load_expired hlimit _
    · exact load_malformed rfl hread hold hnot (Bool.not_eq_true _ ▸ hlimit)

/-- The declared package does not exist. -/
theorem isolates_memeBot :
    let declared := "[\"hubot-meme\", \"hubot-x\"]".toList
    let new := Utf8.encode "[\"hubot-meme\"]"
    memeBot.host.tree.readText memeBot.declarationPath = .ok declared ∧
      Package.load memeBot.host memeBot.cwd ⟨"hubot-x", none⟩ = .error .packageNotFound ∧
      LosesOnly ⟨"hubot-x", .packageNotFound⟩ memeBot.load
        (memeBot.withTree (memeBot.host.tree.write memeBot.declarationPath (.file new))).load := by
  intro declared new
  have htext : memeBot.host.tree.readText memeBot.declarationPath = .ok declared := by
    decide +kernel
  have hj : Json.read 9 "[\"hubot-meme\", \"hubot-x\"]".toList =
      .ok (.arr [.str "hubot-meme", .str "hubot-x"]) := by cbv
  have hroot : Package.find? memeBot.host memeBot.cwd "hubot-x" = .ok none := by decide +kernel
  have hfail : Package.load memeBot.host memeBot.cwd ⟨"hubot-x", none⟩ =
      .error .packageNotFound := by rw [Package.load, hroot]
  have hnew : textOf new = .ok "[\"hubot-meme\"]".toList := by decide +kernel
  have hj' : Json.read 9 "[\"hubot-meme\"]".toList = .ok (.arr [.str "hubot-meme"]) := by cbv
  have hlimit : memeBot.limit.expired = false := by decide +kernel
  have hloses := (isolates memeBot.host .root memeBot.limit).package htext hj rfl
    (List.mem_cons_of_mem _ List.mem_cons_self) hfail hnew hj'
  rw [hlimit] at hloses
  exact ⟨htext, hfail, hloses⟩

/-- An empty file is no JSON, but no error either. -/
theorem not_forall_malformed_fails :
    ¬ ∀ (host : Host) (place : Path) (limit : TimeLimit) (old : Bytes),
      let b : Bot := ⟨host, place.resolve, limit⟩
      limit.expired = false → b.host.tree.readBytes b.declarationPath = .ok old →
      Malformed b.host.stack.declaration old →
      ∃ cause, b.load.errors = (b.withTree (b.host.tree.delete b.declarationPath)).load.errors ++
        [⟨declarationFile, cause⟩] := by
  intro h
  let host : Host := { tree := .dir [(declarationFile, .file [])], stack := ⟨9, 9, 9⟩ }
  let b : Bot := ⟨host, Path.root.resolve, .default⟩
  have hread : b.host.tree.readBytes b.declarationPath = .ok [] := by decide +kernel
  have hempty : WhitespaceOnly [] := ⟨[], by decide +kernel, rfl⟩
  obtain ⟨cause, hcause⟩ := h host .root .default [] (by decide +kernel) hread (hempty.malformed 9)
  have hlength := congrArg List.length hcause
  rw [load_whitespace (b := b) rfl hread hempty, List.length_append] at hlength
  exact absurd hlength (Nat.succ_ne_self _).symm

end Bot

end ScriptHelp
