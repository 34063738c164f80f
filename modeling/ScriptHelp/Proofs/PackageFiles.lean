import ScriptHelp.Proofs.LoadOrder
import ScriptHelp.Proofs.TreeQueries

namespace ScriptHelp

namespace Package

open FileTree Script ScriptHelp.Lists Text

variable {h : Host} {t : FileTree} {cwd root p : Path} {decl : Declaration}
  {names : List CodePoints} {ps : List Path} {e : FileTree.Error} {s : CodePoints}

/-- The scripts directly inside a directory in name order; anything else has none. -/
def scriptsIn (t : FileTree) (directory : Path) : List Path :=
  match t.list directory with
  | .ok ns => (ns.map directory.child).filter (isScript t)
  | .error _ => []

/-- The test of the place fails, or of one of its entries. -/
def PlaceFails (t : FileTree) (place : Path) (e : FileTree.Error) : Prop :=
  t.isDir place = .error e ∨
    t.isDir place = .ok true ∧ ∃ ns, t.list place = .ok ns ∧ CannotTell t (ns.map place.child) e

def Bare (t : FileTree) (place : Path) : Prop :=
  (∀ e, ¬ PlaceFails t place e) ∧ scriptsIn t place = []

/-- The first place that is not without scripts fails with `e`. -/
def PlacesFail (t : FileTree) (root : Path) (e : FileTree.Error) : Prop :=
  ∃ place, FirstAfter (fun s => Bare t (root.join s)) scriptPlaces place ∧
    PlaceFails t (root.join place) e

/-- The first place that holds scripts, with the names of its entries. -/
def FirstPlace (t : FileTree) (root : Path) (place : CodePoints) (ns : List String) : Prop :=
  t.list (root.join place) = .ok ns ∧ scriptsIn t (root.join place) ≠ [] ∧
    FirstAfter (fun s => scriptsIn t (root.join s) = []) scriptPlaces place

theorem scriptsIn_of_list {directory : Path} {ns : List String} (h : t.list directory = .ok ns) :
    scriptsIn t directory = (ns.map directory.child).filter (isScript t) := by
  rw [scriptsIn, h]

theorem list_of_scriptsIn {directory : Path} (h : scriptsIn t directory ≠ []) :
    ∃ ns, t.list directory = .ok ns := by
  cases hlist : t.list directory with
  | ok ns => exact ⟨ns, rfl⟩
  | error e =>
    rw [scriptsIn, hlist] at h
    exact absurd rfl h

def placeFiles (t : FileTree) (place : Path) : Except FileTree.Error (List Path) := do
  if ← t.isDir place then filesIn t place else pure []

theorem firstPlace?_cons (t : FileTree) (root : Path) (s : CodePoints) (places : List CodePoints) :
    firstPlace? t root (s :: places) = do
      let files ← placeFiles t (root.join s)
      if files.isEmpty then firstPlace? t root places else return some files := by
  rw [firstPlace?, placeFiles, bind_assoc]
  rcases t.isDir (root.join s) with _ | _ | _ <;> rfl

theorem placeFiles_eq_error_iff : placeFiles t p = .error e ↔ PlaceFails t p e := by
  rw [placeFiles, PlaceFails]
  rcases hdir : t.isDir p with e' | _ | _
  · simp [bind, Except.bind]
  · simp [bind, Except.bind, pure, Except.pure]
  · obtain ⟨ns, hlist⟩ := list_of_isDir hdir
    have hfiles := filesIn_of_list hlist
    simp only [bind, Except.bind, if_true, hfiles, keepScripts_eq_error_iff, hlist,
      Except.ok.injEq, exists_eq_left', true_and, reduceCtorEq, false_or]

theorem placeFiles_of_not_fails (h : t.Reached root) (hs : Plain s)
    (hnot : ∀ e, ¬ PlaceFails t (root.join s) e) :
    placeFiles t (root.join s) = .ok (scriptsIn t (root.join s)) := by
  cases hfiles : placeFiles t (root.join s) with
  | error e => exact absurd (placeFiles_eq_error_iff.mp hfiles) (hnot e)
  | ok files =>
    rw [placeFiles] at hfiles
    rcases hdir : t.isDir (root.join s) with e | _ | _
    · rw [hdir] at hfiles
      cases hfiles
    · obtain ⟨e, hlist⟩ := h.list_join hs hdir
      rw [hdir] at hfiles
      obtain rfl : [] = files := Except.ok.inj hfiles
      rw [scriptsIn, hlist]
    · obtain ⟨ns, hlist⟩ := list_of_isDir hdir
      rw [hdir] at hfiles
      replace hfiles : filesIn t (root.join s) = .ok files := hfiles
      rw [filesIn_of_list hlist] at hfiles
      obtain hkept | ⟨e, -, hkept⟩ := keepScripts_cases t (ns.map (root.join s).child)
      · rw [scriptsIn_of_list hlist, ← hkept, hfiles]
      · rw [hkept] at hfiles
        cases hfiles

theorem firstPlace?_of_bare (h : t.Reached root) {places : List CodePoints}
    (hplain : ∀ s ∈ places, Plain s) (hbare : ∀ s ∈ places, Bare t (root.join s)) :
    firstPlace? t root places = .ok none := by
  induction places with
  | nil => rfl
  | cons s places ih =>
    rw [List.forall_mem_cons] at hplain hbare
    rw [firstPlace?_cons, placeFiles_of_not_fails h hplain.1 hbare.1.1, hbare.1.2]
    exact ih hplain.2 hbare.2

/-- Places without scripts are skipped. -/
theorem firstPlace?_of_firstAfter (h : t.Reached root) {places : List CodePoints}
    {place : CodePoints} (hplain : ∀ s ∈ places, Plain s)
    (hfirst : FirstAfter (fun s => Bare t (root.join s)) places place) :
    ∃ after, firstPlace? t root places = firstPlace? t root (place :: after) := by
  induction hfirst with
  | head place after => exact ⟨after, rfl⟩
  | tail hbare _ ih =>
    rw [List.forall_mem_cons] at hplain
    rw [firstPlace?_cons, placeFiles_of_not_fails h hplain.1 hbare.1, hbare.2]
    exact ih hplain.2

theorem plain_scriptPlaces : ∀ place ∈ scriptPlaces, Plain place := by decide +kernel

theorem firstPlace?_of_placesFail (h : t.Reached root) (hfail : PlacesFail t root e) :
    firstPlace? t root scriptPlaces = .error e := by
  obtain ⟨place, hfirst, hplace⟩ := hfail
  obtain ⟨after, hafter⟩ := firstPlace?_of_firstAfter h plain_scriptPlaces hfirst
  rw [hafter, firstPlace?_cons, placeFiles_eq_error_iff.mpr hplace]
  rfl

/-- The places are searched in order, up to the first that fails or holds scripts. -/
theorem firstPlace?_cases (h : t.Reached root) :
    ((∀ place ∈ scriptPlaces, scriptsIn t (root.join place) = []) ∧
      firstPlace? t root scriptPlaces = .ok none) ∨
    (∃ place ns, FirstPlace t root place ns ∧ firstPlace? t root scriptPlaces =
      .ok (some ((ns.map (root.join place).child).filter (isScript t)))) ∨
    ∃ e, PlacesFail t root e := by
  obtain hall | ⟨place, hfirst, hplace⟩ :=
    forall_or_firstAfter (fun s => Bare t (root.join s)) scriptPlaces
  · exact .inl ⟨fun place hmem => (hall place hmem).2,
      firstPlace?_of_bare h plain_scriptPlaces hall⟩
  by_cases hfails : ∃ e, PlaceFails t (root.join place) e
  · obtain ⟨e, he⟩ := hfails
    exact .inr (.inr ⟨e, place, hfirst, he⟩)
  · -- a place that is not bare and does not fail holds scripts
    rw [not_exists] at hfails
    have hholds : scriptsIn t (root.join place) ≠ [] := fun hnone => hplace ⟨hfails, hnone⟩
    obtain ⟨ns, hlist⟩ := list_of_scriptsIn hholds
    obtain ⟨after, hafter⟩ := firstPlace?_of_firstAfter h plain_scriptPlaces hfirst
    refine .inr (.inl ⟨place, ns, ⟨hlist, hholds, hfirst.mono fun s hs => hs.2⟩, ?_⟩)
    rw [hafter, firstPlace?_cons,
      placeFiles_of_not_fails h (plain_scriptPlaces place hfirst.mem) hfails,
      ← scriptsIn_of_list hlist]
    exact if_neg (by simpa using hholds)

theorem firstPlace?_eq_error_iff (h : t.Reached root) :
    firstPlace? t root scriptPlaces = .error e ↔ PlacesFail t root e := by
  refine ⟨fun herror => ?_, firstPlace?_of_placesFail h⟩
  obtain ⟨-, hfirst⟩ | ⟨place, ns, -, hfirst⟩ | ⟨e', he'⟩ := firstPlace?_cases h
  · rw [hfirst] at herror
    cases herror
  · rw [hfirst] at herror
    cases herror
  · obtain rfl := Except.error.inj ((firstPlace?_of_placesFail h he').symm.trans herror)
    exact he'

/-- The files of a package restricted to scripts with the given names. -/
inductive NamedFiles (t : FileTree) (root : Path) (names : List CodePoints) : List Path → Prop
  | first {place ns} (hplace : FirstPlace t root place ns) (hsorted : ns.Pairwise (· ≤ ·)) :
    NamedFiles t root names ((ns.map (root.join place).child).filter fun p =>
      isScript t p ∧ (p.name ∈ names ∨ nameOf p.name ∈ names))
  | none (h : ∀ place ∈ scriptPlaces, scriptsIn t (root.join place) = []) :
    NamedFiles t root names []

theorem files_eq_error_iff {restriction : Option (List CodePoints)} {b : Breakdown}
    (hroot : h.tree.Reached root) (hdir : h.tree.isDir root = .ok true)
    (hrestricted : restriction ≠ none) :
    files h root restriction = .error b ↔ ∃ e, b = .file e ∧ PlacesFail h.tree root e := by
  obtain ⟨names, rfl⟩ := Option.ne_none_iff_exists'.mp hrestricted
  simp only [← firstPlace?_eq_error_iff hroot, files, FileTree.isFile_of_isDir hdir]
  rcases firstPlace? h.tree root scriptPlaces with e | _ | _
  · simp [orBreakdown, bind, Except.bind, eq_comm]
  · simp [orBreakdown, bind, Except.bind, pure, Except.pure]
  · simp [orBreakdown, bind, Except.bind, pure, Except.pure]

theorem files_restricted (hroot : h.tree.Reached root) (hdir : h.tree.isDir root = .ok true)
    (hnot : ∀ e, ¬ PlacesFail h.tree root e) (names : List CodePoints) :
    ∃ ps, files h root (some names) = .ok ps ∧ NamedFiles h.tree root names ps := by
  have hfiles : files h root (some names) =
      (orBreakdown (firstPlace? h.tree root scriptPlaces)).map
        fun scripts => (scripts.getD []).filter (isNamed names) := by
    rw [files, FileTree.isFile_of_isDir hdir]
    rcases firstPlace? h.tree root scriptPlaces with _ | _ | _ <;> rfl
  rw [hfiles]
  obtain ⟨hnone, hfirst⟩ | ⟨place, ns, hplace, hfirst⟩ | ⟨e, he⟩ := firstPlace?_cases hroot
  · rw [hfirst]
    exact ⟨[], rfl, .none hnone⟩
  · rw [hfirst]
    refine ⟨_, rfl, ?_⟩
    have hnamed : ((ns.map (root.join place).child).filter (isScript h.tree)).filter
        (isNamed names) = (ns.map (root.join place).child).filter fun p =>
          isScript h.tree p ∧ (p.name ∈ names ∨ nameOf p.name ∈ names) := by
      rw [List.filter_filter]
      refine List.filter_congr fun p _ => ?_
      simp [isNamed, Bool.and_comm]
    change NamedFiles h.tree root names (List.filter (isNamed names) _)
    rw [Option.getD_some, hnamed]
    exact .first hplace (FileTree.list_sorted hplace.1)
  · exact absurd he (hnot e)

def recordOf? (t : FileTree) (p : Path) : Option Record :=
  match t.readText p with
  | .ok text => some (Header.read (String.ofList text))
  | .error _ => none

def failureOf? (t : FileTree) (package : CodePoints) (p : Path) : Option SourceError :=
  match t.readText p with
  | .ok _ => none
  | .error e => some ⟨package, .unreadable p.name e⟩

/-- One record, the merge of the files' records in order, and an error for each file that cannot be
read. -/
structure Contributes (t : FileTree) (package : CodePoints) (ps : List Path) (l : Loaded) :
    Prop where
  record : l.corpus.entries =
    ((Record.mergeAll (ps.filterMap (recordOf? t))).map (Prod.mk (key package))).toList
  failures : l.errors = ps.filterMap (failureOf? t package)

theorem contributes_foldl (t : FileTree) (package : CodePoints) (ps : List Path) :
    Contributes t package ps (ps.foldl (fun l p => l.addFile t package (key package) p) {}) := by
  let s : Source := { name := package, files := .ok ps, key := fun _ => key package }
  have hfold : ps.foldl (fun (l : Loaded) p => l.addFile t package (key package) p) {} =
      ⟨.collect (ps.filterMap (s.contribution? t)), ps.filterMap (s.unreadable? t)⟩ :=
    Loaded.foldl_addFile {} s ps
  have hrecords : ps.filterMap (s.contribution? t) =
      (ps.filterMap (recordOf? t)).map (Prod.mk (key package)) := by
    rw [List.map_filterMap]
    refine List.filterMap_congr fun p _ => ?_
    unfold Source.contribution? recordOf?
    cases t.readText p <;> rfl
  rw [hfold]
  refine ⟨?_, rfl⟩
  rw [← Corpus.entries_collect, hrecords]

theorem load_of_files (hroot : find? h cwd decl.package = .ok (some root))
    (hfiles : files h root decl.restriction? = .ok ps)
    (hps : ps ≠ [] ∨ decl.restriction? = none) :
    ∃ l, load h cwd decl = .ok l ∧ Contributes h.tree decl.package ps l := by
  refine ⟨_, ?_, contributes_foldl h.tree decl.package ps⟩
  rw [load, hroot]
  simp only [hfiles]
  cases ps with
  | nil => simp only [hps.resolve_left (fun hne => hne rfl)]
  | cons p ps => rfl

theorem load_of_no_files (hroot : find? h cwd decl.package = .ok (some root))
    (hfiles : files h root decl.restriction? = .ok [])
    (hnames : decl.restriction? = some names) :
    load h cwd decl = .error (.scriptsNotFound names) := by
  rw [hnames] at hfiles
  rw [load, hroot]
  simp only [hnames, hfiles]

theorem load_of_breakdown {b : Breakdown} (hroot : find? h cwd decl.package = .ok (some root))
    (hfiles : files h root decl.restriction? = .error b) :
    load h cwd decl = .error (.brokeDown b) := by
  rw [load, hroot]
  simp only [hfiles]

/-- A package directory restricted to scripts contributes those of them in its first place with
scripts, and nothing else. It fails when there is none, and when the test of a place fails. -/
theorem load_restricted (h : Host) (cwd : Path) (decl : Declaration) {root : Path}
    {names : List CodePoints} (hroot : find? h cwd decl.package = .ok (some root))
    (hnames : decl.restriction? = some names) (hdir : h.tree.isDir root = .ok true) :
    (∀ b, files h root decl.restriction? = .error b ↔
      ∃ e, b = .file e ∧ PlacesFail h.tree root e) ∧
    (∀ e, PlacesFail h.tree root e → load h cwd decl = .error (.brokeDown (.file e))) ∧
    ((∀ e, ¬ PlacesFail h.tree root e) →
      ∃ ps, files h root decl.restriction? = .ok ps ∧ NamedFiles h.tree root names ps ∧
        (ps = [] → load h cwd decl = .error (.scriptsNotFound names)) ∧
        (ps ≠ [] → ∃ l, load h cwd decl = .ok l ∧ Contributes h.tree decl.package ps l)) := by
  have hreached : h.tree.Reached root := FileTree.reached_of_test hdir
  have herror : ∀ b, files h root decl.restriction? = .error b ↔
      ∃ e, b = .file e ∧ PlacesFail h.tree root e :=
    fun b => files_eq_error_iff hreached hdir (by simp [hnames])
  refine ⟨herror, fun e he => ?_, fun hnot => ?_⟩
  · exact load_of_breakdown hroot ((herror _).mpr ⟨e, rfl, he⟩)
  · obtain ⟨ps, hfiles, hps⟩ := files_restricted hreached hdir hnot names
    rw [← hnames] at hfiles
    refine ⟨ps, hfiles, hps, ?_, fun hne => load_of_files hroot hfiles (.inl hne)⟩
    rintro rfl
    exact load_of_no_files hroot hfiles hnames

def twoPackages : Host where
  tree := .dir [
    ("node_modules", .dir [("hubot-tools", .dir [
      ("scripts", .dir [("undo.js", .file (Utf8.encode "// Commands:\n// hubot undo"))]),
      ("src", .dir [("deploy.py", .file (Utf8.encode "# Commands:\n# hubot deploy"))])])]),
    ("site", .dir [("pkg.py", .file (Utf8.encode "# Commands:\n# hubot x"))])]
  searchPath := [Path.root.join "site"]
  stack := ⟨9, 9, 9⟩

/-- The script in the second place is declared too, but only the first place counts. -/
theorem load_restricted_deploy :
    let decl : Declaration := ⟨"hubot-tools", some ["undo", "deploy"]⟩
    let root : Path := Path.root.join "node_modules/hubot-tools"
    find? twoPackages .root decl.package = .ok (some root) ∧
      decl.restriction? = some [codePoints "undo", codePoints "deploy"] ∧
      twoPackages.tree.isDir root = .ok true ∧
      ∃ l, load twoPackages .root decl = .ok l ∧
        l.corpus.entries = [("tools", { commands := ["hubot deploy"] })] := by
  intro decl root
  have hroot : find? twoPackages .root decl.package = .ok (some root) := by decide +kernel
  have hnames : decl.restriction? = some [codePoints "undo", codePoints "deploy"] := by decide
  have hdir : twoPackages.tree.isDir root = .ok true := by decide +kernel
  have hfiles : files twoPackages root decl.restriction? = .ok [root.join "src/deploy.py"] := by
    decide +kernel
  obtain ⟨herror, -, hload⟩ := load_restricted twoPackages .root decl hroot hnames hdir
  have hnot : ∀ e, ¬ PlacesFail twoPackages.tree root e := by
    intro e he
    rw [(herror (.file e)).mpr ⟨e, rfl, he⟩] at hfiles
    cases hfiles
  obtain ⟨ps, hps, -, -, hload⟩ := hload hnot
  obtain rfl := Except.ok.inj (hfiles.symm.trans hps)
  obtain ⟨l, hl, hrecord, -⟩ := hload (by simp)
  refine ⟨hroot, hnames, hdir, l, hl, ?_⟩
  rw [hrecord]
  decide +kernel

/-- A package that is a single file is used although another script is declared. -/
theorem not_load_restricted_module :
    let decl : Declaration := ⟨"pkg", some ["other"]⟩
    let root : Path := Path.root.join "site/pkg.py"
    find? twoPackages .root decl.package = .ok (some root) ∧
      decl.restriction? = some [codePoints "other"] ∧
      files twoPackages root decl.restriction? = .ok [root] ∧
      root.name ∉ [codePoints "other"] ∧ nameOf root.name ∉ [codePoints "other"] ∧
      ∃ l, load twoPackages .root decl = .ok l := by
  intro decl root
  have hroot : find? twoPackages .root decl.package = .ok (some root) := by decide +kernel
  have hfiles : files twoPackages root decl.restriction? = .ok [root] := by decide +kernel
  obtain ⟨l, hl, -⟩ := load_of_files hroot hfiles (.inl (by simp))
  exact ⟨hroot, rfl, hfiles, by decide, by decide, l, hl⟩

end Package

end ScriptHelp
