import ScriptHelp.Proofs.CorpusMerge
import ScriptHelp.Source.Load

namespace ScriptHelp

open Record ScriptHelp.Lists Text

/-- A source of help: its files or why there are none, and the key of each file's record. -/
structure Source where
  name : CodePoints
  files : Except SourceError (List Path)
  key : Path → String

namespace Source

def contribution? (t : FileTree) (s : Source) (p : Path) : Option (String × Record) :=
  match t.readText p with
  | .ok text => some (s.key p, Header.read (String.ofList text))
  | .error _ => none

def unreadable? (t : FileTree) (s : Source) (p : Path) : Option SourceError :=
  match t.readText p with
  | .ok _ => none
  | .error e => some ⟨s.name, .unreadable p.name e⟩

def contributions (t : FileTree) (s : Source) : List (String × Record) :=
  match s.files with
  | .ok ps => ps.filterMap (s.contribution? t)
  | .error _ => []

/-- One error for each file that cannot be read, or one for the whole source. -/
def failures (t : FileTree) (s : Source) : List SourceError :=
  match s.files with
  | .ok ps => ps.filterMap (s.unreadable? t)
  | .error e => [e]

end Source

def Loaded.ofSources (t : FileTree) (ss : List Source) : Loaded :=
  ⟨.collect (ss.flatMap (·.contributions t)), ss.flatMap (·.failures t)⟩

def Script.isScript (t : FileTree) (p : Path) : Bool :=
  isScriptName p.name && (t.isFile p).toOption = some true

/-- The first path whose test fails. -/
def Script.CannotTell (t : FileTree) (ps : List Path) (e : FileTree.Error) : Prop :=
  ∃ p, FirstAfter (fun q => ∃ b, t.isFile q = .ok b) ps p ∧ t.isFile p = .error e

def Package.selected (h : Host) (cwd : Path) (decl : Declaration) :
    Except SourceCause (List Path) :=
  match find? h cwd decl.package with
  | .error e => .error (.brokeDown (.file e))
  | .ok none => .error .packageNotFound
  | .ok (some root) =>
    match files h root decl.restriction?, decl.restriction? with
    | .error b, _ => .error (.brokeDown b)
    | .ok [], some names => .error (.scriptsNotFound names)
    | .ok ps, _ => .ok ps

namespace Bot

def localSource (b : Bot) (directory : String) : Source where
  name := (b.cwd.join directory).text
  files := Script.localFiles b.host.tree directory (b.cwd.join directory)
  key p := (Script.nameOf p.name).shown

def packageSource (b : Bot) (d : Declaration) : Source where
  name := d.package
  files := (Package.selected b.host b.cwd d).mapError (⟨d.package, ·⟩)
  key _ := Package.key d.package

def packageSources (b : Bot) : List Source :=
  match b.declarations with
  | .ok ds => ds.map b.packageSource
  | .error cause =>
    [{ name := declarationFile, files := .error ⟨declarationFile, cause⟩, key := (·.name.shown) }]

def sources (b : Bot) : List Source := localDirectories.map b.localSource ++ b.packageSources

def contributions (b : Bot) : List (String × Record) :=
  b.sources.flatMap (·.contributions b.host.tree)

def failures (b : Bot) : List SourceError := b.sources.flatMap (·.failures b.host.tree)

end Bot

namespace Loaded

variable {t : FileTree}

theorem ext {a b : Loaded} (hc : a.corpus = b.corpus) (he : a.errors = b.errors) : a = b := by
  cases a
  cases b
  simp_all

theorem addFile_eq (l : Loaded) (s : Source) (p : Path) : l.addFile t s.name (s.key p) p =
    ⟨l.corpus.addAll (s.contribution? t p).toList, l.errors ++ (s.unreadable? t p).toList⟩ := by
  unfold addFile Header.readFile Source.contribution? Source.unreadable?
  cases t.readText p <;> simp [Except.map, Corpus.addAll]

theorem foldl_addFile (l : Loaded) (s : Source) (ps : List Path) :
    ps.foldl (fun l p => l.addFile t s.name (s.key p) p) l =
      ⟨l.corpus.addAll (ps.filterMap (s.contribution? t)),
        l.errors ++ ps.filterMap (s.unreadable? t)⟩ := by
  induction ps generalizing l with
  | nil => simp [Corpus.addAll]
  | cons p ps ih =>
    rw [List.foldl_cons, ih, addFile_eq]
    refine ext ?_ ?_
    · simp only [Corpus.addAll, ← List.foldl_append]
      cases h : s.contribution? t p <;> simp [h]
    · cases h : s.unreadable? t p <;> simp [h]

theorem ofSources_singleton (s : Source) : ofSources t [s] =
    ofResult (s.files.map fun ps =>
      ps.foldl (fun l p => l.addFile t s.name (s.key p) p) {}) := by
  cases hf : s.files with
  | error e =>
    simp only [ofSources, List.flatMap_singleton, Source.contributions, Source.failures, hf]
    rfl
  | ok ps =>
    simp only [Except.map, ofResult, foldl_addFile]
    simp only [ofSources, List.flatMap_singleton, Source.contributions, Source.failures, hf,
      List.nil_append]
    rfl

theorem append_ofSources (xs ys : List Source) :
    append (ofSources t xs) (ofSources t ys) = ofSources t (xs ++ ys) := by
  refine ext ?_ ?_
  · simp only [append, ofSources, List.flatMap_append, Corpus.collect_append]
    exact Corpus.addAll_collect _ _
  · simp only [append, ofSources, List.flatMap_append]

theorem foldl_append_ofSources (xs : List Source) (ls : List (List Source)) :
    (ls.map (ofSources t)).foldl append (ofSources t xs) = ofSources t (xs ++ ls.flatten) := by
  induction ls generalizing xs with
  | nil => simp
  | cons l ls ih =>
    rw [List.map_cons, List.foldl_cons, append_ofSources, ih, List.flatten_cons,
      List.append_assoc]

theorem concat_ofSources (ls : List (List Source)) :
    concat (ls.map (ofSources t)) = ofSources t ls.flatten :=
  foldl_append_ofSources [] ls

end Loaded

theorem FileTree.list_sorted {t : FileTree} {p : Path} {names : List String}
    (h : t.list p = .ok names) : names.Pairwise (· ≤ ·) := by
  unfold FileTree.list at h
  rcases hp : t.locate p with e | ⟨c | cs, above⟩
  · simp [hp, bind, Except.bind] at h
  · simp [hp, bind, Except.bind] at h
  · simp only [hp, bind, Except.bind, Except.ok.injEq] at h
    subst h
    refine (List.pairwise_mergeSort (fun a b c hab hbc => ?_) (fun a b => ?_) _).imp
      of_decide_eq_true
    · exact decide_eq_true (String.le_trans (of_decide_eq_true hab) (of_decide_eq_true hbc))
    · simpa using String.le_total a b

namespace Script

variable {t : FileTree} {directory : Path} {source : String} {ps : List Path} {e : FileTree.Error}

theorem keepScripts_of_forall (h : ∀ p ∈ ps, ∃ b, t.isFile p = .ok b) :
    keepScripts t ps = .ok (ps.filter (isScript t)) := by
  induction ps with
  | nil => rfl
  | cons p ps ih =>
    rw [List.forall_mem_cons] at h
    obtain ⟨⟨b, hp⟩, hps⟩ := h
    have hscript : isScript t p = (b && isScriptName p.name) := by
      rw [isScript, hp, Bool.and_comm]
      simp [Except.toOption]
    rw [keepScripts, hp, ih hps, List.filter_cons, hscript]
    rfl

theorem keepScripts_of_cannotTell (h : CannotTell t ps e) : keepScripts t ps = .error e := by
  obtain ⟨p, hfirst, hp⟩ := h
  induction hfirst with
  | head p ps =>
    rw [keepScripts, hp]
    rfl
  | tail hq _ ih =>
    obtain ⟨b, hq⟩ := hq
    rw [keepScripts, hq, ih hp]
    rfl

/-- Keeps the scripts among the paths, unless the test of a path fails. -/
theorem keepScripts_cases (t : FileTree) (ps : List Path) :
    keepScripts t ps = .ok (ps.filter (isScript t)) ∨
      ∃ e, CannotTell t ps e ∧ keepScripts t ps = .error e := by
  obtain hall | ⟨p, hfirst, hp⟩ := forall_or_firstAfter (fun q => ∃ b, t.isFile q = .ok b) ps
  · exact .inl (keepScripts_of_forall hall)
  · cases hfile : t.isFile p with
    | error e => exact .inr ⟨e, ⟨p, hfirst, hfile⟩, keepScripts_of_cannotTell ⟨p, hfirst, hfile⟩⟩
    | ok b => exact absurd ⟨b, hfile⟩ hp

theorem keepScripts_eq_error_iff : keepScripts t ps = .error e ↔ CannotTell t ps e := by
  refine ⟨fun h => ?_, keepScripts_of_cannotTell⟩
  obtain hkept | ⟨e', he', hkept⟩ := keepScripts_cases t ps
  · rw [hkept] at h
    cases h
  · obtain rfl := Except.error.inj (hkept.symm.trans h)
    exact he'

theorem filesIn_of_list {names : List String} (h : t.list directory = .ok names) :
    filesIn t directory = keepScripts t (names.map directory.child) := by
  rw [filesIn, h]
  rfl

theorem loadDirectory_eq (t : FileTree) (source : String) (directory : Path) :
    loadDirectory t source directory = (localFiles t source directory).map fun ps =>
      ps.foldl (fun l p => l.addFile t directory.text (nameOf p.name).shown p) {} := by
  unfold loadDirectory
  cases localFiles t source directory <;> rfl

/-- The files of a directory are its scripts in name order. -/
theorem localFiles_eq_ok (h : localFiles t source directory = .ok ps) :
    (∃ e, t.list directory = .error e ∧ e.fault = .missing ∧ ps = []) ∨
      ∃ names, t.list directory = .ok names ∧ names.Pairwise (· ≤ ·) ∧
        ps = (names.map directory.child).filter (isScript t) := by
  unfold localFiles at h
  cases hl : t.list directory with
  | error e =>
    simp only [hl] at h
    split_ifs at h with hmissing
    exact .inl ⟨e, rfl, hmissing, (Except.ok.inj h).symm⟩
  | ok names =>
    simp only [hl, filesIn_of_list hl] at h
    obtain hkept | ⟨e, -, hkept⟩ := keepScripts_cases t (names.map directory.child)
    · rw [hkept] at h
      exact .inr ⟨names, rfl, FileTree.list_sorted hl, (Except.ok.inj h).symm⟩
    · rw [hkept] at h
      cases h

/-- A directory fails when it exists and cannot be listed, or when the test of one of its entries
fails. -/
theorem localFiles_eq_error {e : SourceError} (h : localFiles t source directory = .error e) :
    (∃ f, t.list directory = .error f ∧ f.fault ≠ .missing ∧
        e = ⟨directory.text, .inaccessible f⟩) ∨
      ∃ names f, t.list directory = .ok names ∧
        CannotTell t (names.map directory.child) f ∧
        e = ⟨source, .brokeDown (.file f)⟩ := by
  unfold localFiles at h
  cases hl : t.list directory with
  | error f =>
    simp only [hl] at h
    split_ifs at h with hmissing
    exact .inl ⟨f, rfl, hmissing, (Except.error.inj h).symm⟩
  | ok names =>
    simp only [hl, filesIn_of_list hl] at h
    obtain hkept | ⟨f, hf, hkept⟩ := keepScripts_cases t (names.map directory.child)
    · rw [hkept] at h
      cases h
    · rw [hkept] at h
      exact .inr ⟨names, f, rfl, hf, (Except.error.inj h).symm⟩

end Script

theorem Package.load_eq (h : Host) (cwd : Path) (decl : Declaration) : load h cwd decl =
    (selected h cwd decl).map fun ps =>
      ps.foldl (fun l p => l.addFile h.tree decl.package (key decl.package) p) {} := by
  unfold load selected
  rcases find? h cwd decl.package with e | _ | root
  · rfl
  · rfl
  · simp only
    rcases files h root decl.restriction? with e | ps
    · rfl
    · cases ps <;> cases decl.restriction? <;> rfl

namespace Bot

theorem loadLocal_eq (b : Bot) (directory : String) :
    b.loadLocal directory = .ofSources b.host.tree [b.localSource directory] := by
  rw [Loaded.ofSources_singleton]
  simp only [loadLocal, Script.loadDirectory_eq, localSource]

theorem loadPackage_eq (b : Bot) (d : Declaration) :
    b.loadPackage d = .ofSources b.host.tree [b.packageSource d] := by
  rw [Loaded.ofSources_singleton]
  simp only [loadPackage, Package.load_eq, packageSource]
  cases Package.selected b.host b.cwd d <;> rfl

theorem loadPackages_eq (b : Bot) :
    b.loadPackages = .ofSources b.host.tree b.packageSources := by
  unfold loadPackages packageSources
  cases b.declarations with
  | error cause => rfl
  | ok ds =>
    have hmap : ds.map b.loadPackage =
        (ds.map fun d => [b.packageSource d]).map (Loaded.ofSources b.host.tree) := by
      rw [List.map_map]
      exact List.map_congr_left fun d _ => b.loadPackage_eq d
    simp only [hmap, Loaded.concat_ofSources]
    rw [← List.flatMap_def, ← List.map_eq_flatMap]

theorem load_eq (b : Bot) (h : b.limit.expired = false) :
    b.load = .ofSources b.host.tree b.sources := by
  have hmap : localDirectories.map b.loadLocal ++ [b.loadPackages] =
      (localDirectories.map (fun d => [b.localSource d]) ++ [b.packageSources]).map
        (Loaded.ofSources b.host.tree) := by
    simp only [localDirectories, List.map_cons, List.map_nil, loadLocal_eq, loadPackages_eq,
      List.cons_append, List.nil_append]
  simp only [load, h, Bool.false_eq_true, if_false, hmap, Loaded.concat_ofSources]
  rw [List.flatten_append, ← List.flatMap_def, ← List.map_eq_flatMap, List.flatten_singleton,
    sources]

structure LoadsFlat (b : Bot) : Prop where
  /-- The keys are the contributed ones, in the order of their first contributions. -/
  names : FirstsOf b.load.corpus.names (b.contributions.map (·.1))
  /-- A lone contribution is kept unchanged. -/
  lone : ∀ k r, Corpus.under k b.contributions = [r] → b.load.corpus.get? k = some r
  /-- Several contributions give all their lines, each at its first occurrence. -/
  several : ∀ k, 2 ≤ (Corpus.under k b.contributions).length → ∃ r, b.load.corpus.get? k = some r ∧
    ∀ s, FirstsOf (r.get s) ((Corpus.under k b.contributions).flatMap (·.get s))
  failures : b.load.errors = b.failures
  /-- The files of the bot's own directories are all scripts there, in name order. -/
  scripts : ∀ directory ∈ localDirectories, ∀ ps, (b.localSource directory).files = .ok ps →
    (∃ e, b.host.tree.list (b.cwd.join directory) = .error e ∧ e.fault = .missing ∧ ps = []) ∨
      ∃ names, b.host.tree.list (b.cwd.join directory) = .ok names ∧ names.Pairwise (· ≤ ·) ∧
        ps = (names.map (b.cwd.join directory).child).filter (Script.isScript b.host.tree)
  /-- Why a directory of the bot fails as a whole. -/
  directories : ∀ directory ∈ localDirectories, ∀ e, (b.localSource directory).files = .error e →
    (∃ f, b.host.tree.list (b.cwd.join directory) = .error f ∧ f.fault ≠ .missing ∧
        e = ⟨(b.cwd.join directory).text, .inaccessible f⟩) ∨
      ∃ names f, b.host.tree.list (b.cwd.join directory) = .ok names ∧
        Script.CannotTell b.host.tree (names.map (b.cwd.join directory).child) f ∧
        e = ⟨directory, .brokeDown (.file f)⟩

/-- Within the time limit, a load is the flat merge of its contributions. -/
theorem load_flat (b : Bot) (h : b.limit.expired = false) : b.LoadsFlat := by
  have hget : ∀ k, b.load.corpus.get? k = mergeAll (Corpus.under k b.contributions) := by
    intro k
    rw [load_eq b h]
    exact Corpus.get?_collect _ k
  refine ⟨?_, ?_, ?_, ?_, ?_, ?_⟩
  · rw [load_eq b h]
    simp only [Loaded.ofSources, Corpus.names_collect]
    exact firstsOf_firsts _
  · intro k r hk
    rw [hget, hk]
    rfl
  · intro k hk
    rw [hget]
    exact mergeAll_of_two_le hk
  · rw [load_eq b h]
    rfl
  · intro directory _ ps hps
    exact Script.localFiles_eq_ok hps
  · intro directory _ e he
    exact Script.localFiles_eq_error he

def memeBot : Bot where
  host := {
    tree := .dir [
      ("scripts", .dir [
        ("meme.coffee", .file (Text.Utf8.encode "# Commands:\n# hubot brace yourself - meme")),
        ("ping.py", .file [0xFF])]),
      ("node_modules", .dir [("hubot-meme", .dir [
        ("index.js", .file (Text.Utf8.encode "// Commands:\n// hubot one does not - meme"))])]),
      ("external-scripts.json", .file (Text.Utf8.encode "[\"hubot-meme\", \"hubot-x\"]"))]
    stack := ⟨9, 9, 9⟩ }
  cwd := .root
  limit := .default

theorem load_flat_memeBot : memeBot.limit.expired = false ∧ memeBot.LoadsFlat :=
  ⟨by decide +kernel, load_flat memeBot (by decide +kernel)⟩

end Bot

end ScriptHelp
