import ScriptHelp.Proofs.PackageFiles

namespace ScriptHelp.Package

open FileTree Script ScriptHelp.Lists Text

variable {h : Host} {t : FileTree} {cwd root p : Path} {decl : Declaration} {ps : List Path}
  {e : FileTree.Error} {b : Breakdown} {main : CodePoints}

section FirstFile

def IsFirstFile (t : FileTree) (ps : List Path) (p : Path) : Prop :=
  FirstAfter (fun q => t.isFile q = .ok false) ps p ∧ t.isFile p = .ok true

/-- The test of a path fails before any file is found. -/
def CannotAsk (t : FileTree) (ps : List Path) (e : FileTree.Error) : Prop :=
  ∃ p, FirstAfter (fun q => t.isFile q = .ok false) ps p ∧ t.isFile p = .error e

theorem firstFile?_of_forall (h : ∀ q ∈ ps, t.isFile q = .ok false) :
    firstFile? t ps = .ok none := by
  induction ps with
  | nil => rfl
  | cons q ps ih =>
    rw [List.forall_mem_cons] at h
    rw [firstFile?, h.1]
    exact ih h.2

theorem firstFile?_of_firstAfter (h : FirstAfter (fun q => t.isFile q = .ok false) ps p)
    (hp : t.isFile p ≠ .ok false) : firstFile? t ps = (t.isFile p).map fun _ => some p := by
  induction h with
  | head p ps =>
    rw [firstFile?]
    rcases hfile : t.isFile p with e | _ | _
    · rfl
    · exact absurd hfile hp
    · rfl
  | tail hq _ ih =>
    rw [firstFile?, hq]
    exact ih hp

theorem firstFile?_cases (t : FileTree) (ps : List Path) :
    (firstFile? t ps = .ok none ∧ ∀ q ∈ ps, t.isFile q = .ok false) ∨
      (∃ p, firstFile? t ps = .ok (some p) ∧ IsFirstFile t ps p) ∨
      ∃ e, CannotAsk t ps e := by
  obtain hall | ⟨p, hfirst, hp⟩ := forall_or_firstAfter (fun q => t.isFile q = .ok false) ps
  · exact .inl ⟨firstFile?_of_forall hall, hall⟩
  · have hfile := firstFile?_of_firstAfter hfirst hp
    rcases hisFile : t.isFile p with e | _ | _
    · exact .inr (.inr ⟨e, p, hfirst, hisFile⟩)
    · exact absurd hisFile hp
    · rw [hisFile] at hfile
      exact .inr (.inl ⟨p, hfile, hfirst, hisFile⟩)

theorem firstFile?_of_cannotAsk (h : CannotAsk t ps e) : firstFile? t ps = .error e := by
  obtain ⟨p, hfirst, hp⟩ := h
  rw [firstFile?_of_firstAfter hfirst (by simp [hp]), hp]
  rfl

end FirstFile

def manifestOf (root : Path) : Path := root.join "package.json"

def NamesMain (h : Host) (root : Path) (main : CodePoints) : Prop :=
  h.tree.isFile (manifestOf root) = .ok true ∧ main ≠ [] ∧ ∃ text j,
    h.tree.readText (manifestOf root) = .ok text ∧ Json.read h.stack.manifest text = .ok j ∧
      j.field? "main" = some (.str main)

/-- The main file as it is named, then with each script suffix appended. -/
def mainPaths (root : Path) (main : CodePoints) : List Path :=
  root.join main :: suffixes.map fun s =>
    (root.join main).withName ((root.join main).name ++ s)

/-- How finding the entry file can fail. -/
inductive ManifestFails (h : Host) (root : Path) : Breakdown → Prop
  | cannotAsk {e : FileTree.Error} (hfile : h.tree.isFile (manifestOf root) = .error e) :
    ManifestFails h root (.file e)
  | tooDeep {text : List Char} {c : Json.Container}
    (hfile : h.tree.isFile (manifestOf root) = .ok true)
    (htext : h.tree.readText (manifestOf root) = .ok text)
    (hread : Json.read h.stack.manifest text = .error (.tooDeep c)) :
    ManifestFails h root (.tooDeep c)
  | noName {main : CodePoints} (hmain : NamesMain h root main)
    (hname : (root.join main).name = []) : ManifestFails h root (.noName (root.join main))
  | cannotAskMain {main : CodePoints} {e : FileTree.Error} (hmain : NamesMain h root main)
    (hname : (root.join main).name ≠ [])
    (hask : CannotAsk h.tree (mainPaths root main) e) : ManifestFails h root (.file e)

/-- How selecting the files of a package without scripts can fail. -/
inductive Derails (h : Host) (root : Path) : Breakdown → Prop
  | places {e : FileTree.Error} (hplaces : PlacesFail h.tree root e) : Derails h root (.file e)
  | manifest {b : Breakdown} (hplaces : ∀ e, ¬ PlacesFail h.tree root e)
    (hmanifest : ManifestFails h root b) : Derails h root b

/-- The main file if one of its candidates exists, else the first entry file. -/
inductive IsEntryFile (h : Host) (root : Path) : Path → Prop
  | main {main : CodePoints} {p : Path} (hmain : NamesMain h root main)
    (hp : IsFirstFile h.tree (mainPaths root main) p) : IsEntryFile h root p
  | entry {p : Path} (hnone : ∀ main, NamesMain h root main →
      ∀ q ∈ mainPaths root main, h.tree.isFile q = .ok false)
    (hp : IsFirstFile h.tree (entryNames.map root.join) p) : IsEntryFile h root p

theorem mainName?_eq_some_iff {depth : Nat} {text : List Char} :
    mainName? depth text = .ok (some main) ↔
      main ≠ [] ∧ ∃ j, Json.read depth text = .ok j ∧ j.field? "main" = some (.str main) := by
  unfold mainName?
  rcases Json.read depth text with f | j
  · cases f <;> simp
  · simp only [Except.ok.injEq, exists_eq_left']
    rcases j.field? (codePoints "main") with _ | v
    · simp
    · cases v with
      | str s =>
        by_cases hs : s = []
        · subst hs
          refine iff_of_false (by simp) ?_
          rintro ⟨hne, hmain⟩
          exact hne (Json.str.inj (Option.some.inj hmain)).symm
        · simp only [List.isEmpty_iff, hs, if_false, Except.ok.injEq, Option.some.injEq,
            Json.str.injEq, iff_and_self]
          rintro rfl
          exact hs
      | _ => simp

theorem mainName?_eq_error {depth : Nat} {text : List Char} (h : mainName? depth text = .error b) :
    ∃ c, b = .tooDeep c ∧ Json.read depth text = .error (.tooDeep c) := by
  unfold mainName? at h
  split at h
  · split at h <;> cases h
  · exact ⟨_, (Except.error.inj h).symm, ‹_›⟩
  · cases h

theorem mainFile?_of_text {text : List Char} (hfile : h.tree.isFile (manifestOf root) = .ok true)
    (htext : h.tree.readText (manifestOf root) = .ok text) : mainFile? h root = (do
      match ← mainName? h.stack.manifest text with
      | none => return none
      | some main => orBreakdown (firstFile? h.tree (← mainCandidates (root.join main)))) := by
  simp only [manifestOf] at hfile htext
  simp only [mainFile?, hfile, htext]
  rfl

theorem mainFile?_of_namesMain (hmain : NamesMain h root main) : mainFile? h root = (do
    orBreakdown (firstFile? h.tree (← mainCandidates (root.join main)))) := by
  obtain ⟨hfile, hne, text, j, htext, hread, hfield⟩ := hmain
  rw [mainFile?_of_text hfile htext, mainName?_eq_some_iff.mpr ⟨hne, j, hread, hfield⟩]
  rfl

theorem mainCandidates_of_name (h : (root.join main).name ≠ []) :
    mainCandidates (root.join main) = .ok (mainPaths root main) := by
  rw [mainCandidates, if_neg (by simpa using h)]
  rfl

theorem mainCandidates_of_no_name (h : (root.join main).name = []) :
    mainCandidates (root.join main) = .error (.noName (root.join main)) := by
  rw [mainCandidates, h]
  rfl

theorem mainFile?_of_error (hfile : h.tree.isFile (manifestOf root) = .error e) :
    mainFile? h root = .error (.file e) := by
  rw [manifestOf] at hfile
  simp only [mainFile?, hfile, orBreakdown, bind, Except.bind]

/-- A manifest names a main file, or fails, or is ignored. -/
theorem mainFile?_cases (h : Host) (root : Path) : (∃ main, NamesMain h root main) ∨
    (∃ b, ManifestFails h root b) ∨
    mainFile? h root = .ok none ∧ ∀ main, ¬ NamesMain h root main := by
  -- only a manifest that can be read as JSON names anything
  rcases hfile : h.tree.isFile (manifestOf root) with e | _ | _
  · exact .inr (.inl ⟨_, .cannotAsk hfile⟩)
  · refine .inr (.inr ⟨?_, fun main hmain => ?_⟩)
    · rw [manifestOf] at hfile
      rw [mainFile?, hfile]
      rfl
    · rw [hmain.1] at hfile
      cases hfile
  · cases htext : h.tree.readText (manifestOf root) with
    | error e =>
      refine .inr (.inr ⟨?_, fun main hmain => ?_⟩)
      · simp only [manifestOf] at hfile htext
        simp only [mainFile?, hfile, htext, orBreakdown, bind, Except.bind, Bool.not_true,
          Bool.false_eq_true, if_false]
        rfl
      · obtain ⟨-, -, text, j, htext', -⟩ := hmain
        rw [htext] at htext'
        cases htext'
    | ok text =>
      rw [mainFile?_of_text hfile htext]
      rcases hname : mainName? h.stack.manifest text with b | _ | main
      · obtain ⟨c, rfl, hread⟩ := mainName?_eq_error hname
        exact .inr (.inl ⟨_, .tooDeep hfile htext hread⟩)
      · refine .inr (.inr ⟨rfl, fun main hmain => ?_⟩)
        obtain ⟨-, hne, text', j, htext', hread, hfield⟩ := hmain
        obtain rfl := Except.ok.inj (htext.symm.trans htext')
        rw [mainName?_eq_some_iff.mpr ⟨hne, j, hread, hfield⟩] at hname
        cases hname
      · obtain ⟨hne, j, hread, hfield⟩ := mainName?_eq_some_iff.mp hname
        exact .inl ⟨main, hfile, hne, text, j, htext, hread, hfield⟩

theorem namesMain_unique {main' : CodePoints} (hmain : NamesMain h root main)
    (hmain' : NamesMain h root main') : main = main' := by
  obtain ⟨-, -, text, j, htext, hread, hfield⟩ := hmain
  obtain ⟨-, -, text', j', htext', hread', hfield'⟩ := hmain'
  obtain rfl := Except.ok.inj (htext.symm.trans htext')
  obtain rfl := Except.ok.inj (hread.symm.trans hread')
  exact Json.str.inj (Option.some.inj (hfield.symm.trans hfield'))

theorem entryFile?_of_fails (hfails : ManifestFails h root b) : entryFile? h root = .error b := by
  have hmain : mainFile? h root = .error b := by
    cases hfails with
    | cannotAsk hfile => exact mainFile?_of_error hfile
    | tooDeep hfile htext hread =>
      rw [mainFile?_of_text hfile htext, mainName?, hread]
      rfl
    | noName hmain hname =>
      rw [mainFile?_of_namesMain hmain, mainCandidates_of_no_name hname]
      rfl
    | cannotAskMain hmain hname hask =>
      rw [mainFile?_of_namesMain hmain, mainCandidates_of_name hname]
      change orBreakdown (firstFile? h.tree (mainPaths root _)) = _
      rw [firstFile?_of_cannotAsk hask]
      rfl
  rw [entryFile?, hmain]
  rfl

/-- No entry file name is longer than that of the manifest. -/
theorem plain_entryNames : ∀ n ∈ entryNames, (Plain n ∧ Path.namesOf n = [n]) ∧
    size n ≤ size "package.json" := by decide +kernel

theorem firstFile?_entryNames (hroot : t.Reached root) {isThere : Bool}
    (hmanifest : t.isFile (manifestOf root) = .ok isThere)
    (hentry : ∃ n ∈ entryNames, t.isFile (root.join n) = .ok true) :
    ∃ p, firstFile? t (entryNames.map root.join) = .ok (some p) ∧
      IsFirstFile t (entryNames.map root.join) p := by
  obtain ⟨-, hnone⟩ | hsome | ⟨e, p, hfirst, hp⟩ :=
    firstFile?_cases t (entryNames.map root.join)
  · obtain ⟨n, hn, hfile⟩ := hentry
    rw [hnone _ (List.mem_map_of_mem hn)] at hfile
    cases hfile
  · exact hsome
  · -- where the manifest can be asked for, so can each entry file
    obtain ⟨n, hn, rfl⟩ : ∃ n ∈ entryNames, root.join n = p := List.mem_map.mp hfirst.mem
    obtain ⟨hplain, hsize⟩ := plain_entryNames n hn
    obtain ⟨b, hb⟩ := hroot.isFile_join_of_le plain_manifest.1 hplain.1
      (size_join_le hplain plain_manifest hsize root) hmanifest
    rw [hp] at hb
    cases hb

theorem entryFile?_of_mainFile? (hnone : mainFile? h root = .ok none) :
    entryFile? h root = orBreakdown (firstFile? h.tree (entryNames.map root.join)) := by
  rw [entryFile?, hnone]
  rfl

/-- A package directory that has an entry file finds its main file or its first entry file, unless
its manifest fails. -/
theorem entryFile?_cases (hroot : h.tree.Reached root)
    (hentry : ∃ n ∈ entryNames, h.tree.isFile (root.join n) = .ok true) :
    (∃ b, ManifestFails h root b) ∨
      ∃ p, entryFile? h root = .ok (some p) ∧ IsEntryFile h root p := by
  cases hmanifest : h.tree.isFile (manifestOf root) with
  | error e => exact .inl ⟨_, .cannotAsk hmanifest⟩
  | ok isThere =>
    obtain ⟨p, hp, hfirst⟩ := firstFile?_entryNames hroot hmanifest hentry
    have hfallback (hnone : mainFile? h root = .ok none) : entryFile? h root = .ok (some p) := by
      rw [entryFile?_of_mainFile? hnone, hp]
      rfl
    obtain ⟨main, hmain⟩ | hfails | ⟨hnone, hnames⟩ := mainFile?_cases h root
    · by_cases hname : (root.join main).name = []
      · exact .inl ⟨_, .noName hmain hname⟩
      have hfile : mainFile? h root = orBreakdown (firstFile? h.tree (mainPaths root main)) := by
        rw [mainFile?_of_namesMain hmain, mainCandidates_of_name hname]
        rfl
      obtain ⟨hnone, hall⟩ | ⟨q, hq, hqfirst⟩ | ⟨e, hask⟩ :=
        firstFile?_cases h.tree (mainPaths root main)
      · -- a main file that is not there is as good as none
        refine .inr ⟨p, hfallback (by rw [hfile, hnone]; rfl), .entry ?_ hfirst⟩
        intro main' hmain'
        rwa [← namesMain_unique hmain hmain']
      · refine .inr ⟨q, ?_, .main hmain hqfirst⟩
        rw [entryFile?, hfile, hq]
        rfl
      · exact .inl ⟨_, .cannotAskMain hmain hname hask⟩
    · exact .inl hfails
    · exact .inr ⟨p, hfallback hnone,
        .entry (fun main hmain => absurd hmain (hnames main)) hfirst⟩

theorem isFile_of_isEntryFile (hp : IsEntryFile h root p) : h.tree.isFile p = .ok true := by
  cases hp with
  | main _ hp => exact hp.2
  | entry _ hp => exact hp.2

theorem files_of_no_scripts (hroot : h.tree.Reached root) (hdir : h.tree.isDir root = .ok true)
    (hempty : ∀ place ∈ scriptPlaces, scriptsIn h.tree (root.join place) = [])
    (hplaces : ∀ e, ¬ PlacesFail h.tree root e) :
    files h root none = (entryFile? h root).map Option.toList := by
  have hfirst : firstPlace? h.tree root scriptPlaces = .ok none := by
    obtain ⟨-, hfirst⟩ | ⟨place, ns, ⟨-, hholds, hplace⟩, -⟩ | ⟨e, he⟩ := firstPlace?_cases hroot
    · exact hfirst
    · exact absurd (hempty place hplace.mem) hholds
    · exact absurd he (hplaces e)
  rw [files, isFile_of_isDir hdir, hfirst]
  cases entryFile? h root <;> rfl

theorem files_of_placesFail (hroot : h.tree.Reached root) (hdir : h.tree.isDir root = .ok true)
    (hplaces : PlacesFail h.tree root e) : files h root none = .error (.file e) := by
  rw [files, isFile_of_isDir hdir, firstPlace?_of_placesFail hroot hplaces]
  rfl

theorem files_of_derails (hroot : h.tree.Reached root) (hdir : h.tree.isDir root = .ok true)
    (hempty : ∀ place ∈ scriptPlaces, scriptsIn h.tree (root.join place) = [])
    (hb : Derails h root b) : files h root none = .error b := by
  cases hb with
  | places hplaces => exact files_of_placesFail hroot hdir hplaces
  | manifest hplaces hmanifest =>
    rw [files_of_no_scripts hroot hdir hempty hplaces, entryFile?_of_fails hmanifest]
    rfl

theorem entryFile?_eq_error_iff (hroot : h.tree.Reached root)
    (hentry : ∃ n ∈ entryNames, h.tree.isFile (root.join n) = .ok true) :
    entryFile? h root = .error b ↔ ManifestFails h root b := by
  refine ⟨fun hb => ?_, entryFile?_of_fails⟩
  obtain ⟨b', hb'⟩ | ⟨p, hp, -⟩ := entryFile?_cases hroot hentry
  · obtain rfl := Except.error.inj ((entryFile?_of_fails hb').symm.trans hb)
    exact hb'
  · rw [hb] at hp
    cases hp

theorem files_eq_error_iff_derails (hroot : h.tree.Reached root)
    (hdir : h.tree.isDir root = .ok true)
    (hempty : ∀ place ∈ scriptPlaces, scriptsIn h.tree (root.join place) = [])
    (hentry : ∃ n ∈ entryNames, h.tree.isFile (root.join n) = .ok true) :
    files h root none = .error b ↔ Derails h root b := by
  refine ⟨fun hb => ?_, files_of_derails hroot hdir hempty⟩
  by_cases hplaces : ∃ e, PlacesFail h.tree root e
  · obtain ⟨e, he⟩ := hplaces
    obtain rfl := Except.error.inj ((files_of_placesFail hroot hdir he).symm.trans hb)
    exact .places he
  · rw [not_exists] at hplaces
    rw [files_of_no_scripts hroot hdir hempty hplaces] at hb
    cases hfile : entryFile? h root with
    | error b' =>
      rw [hfile] at hb
      obtain rfl : b' = b := Except.error.inj hb
      exact .manifest hplaces ((entryFile?_eq_error_iff hroot hentry).mp hfile)
    | ok p =>
      rw [hfile] at hb
      cases hb

/-- An unrestricted package directory that has no scripts but an entry file contributes its main
file or its first entry file: that file's record, or one error when the file cannot be read. It
fails as a whole exactly when its places or its manifest fail. -/
theorem load_entry (h : Host) (cwd : Path) (decl : Declaration) {root : Path}
    (hroot : find? h cwd decl.package = .ok (some root)) (hfree : decl.restriction? = none)
    (hdir : h.tree.isDir root = .ok true)
    (hempty : ∀ place ∈ scriptPlaces, scriptsIn h.tree (root.join place) = [])
    (hentry : ∃ n ∈ entryNames, h.tree.isFile (root.join n) = .ok true) :
    (∀ b, entryFile? h root = .error b ↔ ManifestFails h root b) ∧
    (∀ b, files h root decl.restriction? = .error b ↔ Derails h root b) ∧
    (∀ b, Derails h root b → load h cwd decl = .error (.brokeDown b)) ∧
    ((∀ b, ¬ Derails h root b) → ∃ p, entryFile? h root = .ok (some p) ∧
      h.tree.isFile p = .ok true ∧ IsEntryFile h root p ∧
      ∃ l, load h cwd decl = .ok l ∧ Contributes h.tree decl.package [p] l) := by
  have hreached : h.tree.Reached root := reached_of_test hdir
  have hderails : ∀ b, files h root decl.restriction? = .error b ↔ Derails h root b := by
    rw [hfree]
    exact fun b => files_eq_error_iff_derails hreached hdir hempty hentry
  refine ⟨fun b => entryFile?_eq_error_iff hreached hentry, hderails,
    fun b hb => load_of_breakdown hroot ((hderails b).mpr hb), fun hnone => ?_⟩
  have hplaces : ∀ e, ¬ PlacesFail h.tree root e := fun e he => hnone _ (.places he)
  obtain ⟨b, hb⟩ | ⟨p, hp, hentry⟩ := entryFile?_cases hreached hentry
  · exact absurd (.manifest hplaces hb) (hnone b)
  · refine ⟨p, hp, isFile_of_isEntryFile hentry, hentry, load_of_files hroot ?_ (.inr hfree)⟩
    rw [hfree, files_of_no_scripts hreached hdir hempty hplaces, hp]
    rfl

def withManifest (manifest : String) : Host where
  tree := .dir [("node_modules", .dir [("p", .dir [
    ("package.json", .file (Utf8.encode manifest)),
    ("index.js", .file (Utf8.encode "// Commands:\n// hubot p"))])])]
  stack := ⟨9, 9, 9⟩

/-- A truncated manifest is ignored. -/
theorem load_entry_garbled :
    let h := withManifest "\x7b\"main\": "
    let root : Path := Path.root.join "node_modules/p"
    find? h .root "p" = .ok (some root) ∧ h.tree.isDir root = .ok true ∧
      (∀ place ∈ scriptPlaces, scriptsIn h.tree (root.join place) = []) ∧
      (∃ n ∈ entryNames, h.tree.isFile (root.join n) = .ok true) ∧
      ∃ l, load h .root ⟨"p", none⟩ = .ok l ∧
        l.corpus.entries = [("p", { commands := ["hubot p"] })] := by
  intro h root
  have hroot : find? h .root "p" = .ok (some root) := by decide +kernel
  have hdir : h.tree.isDir root = .ok true := by decide +kernel
  have hempty : ∀ place ∈ scriptPlaces, scriptsIn h.tree (root.join place) = [] := by
    decide +kernel
  have hentry : ∃ n ∈ entryNames, h.tree.isFile (root.join n) = .ok true := by decide +kernel
  have hfiles : files h root none = .ok [root.join "index.js"] := by decide +kernel
  obtain ⟨-, hderails, -, hload⟩ := load_entry h .root ⟨"p", none⟩ hroot rfl hdir hempty hentry
  have hnone : ∀ b, ¬ Derails h root b := by
    intro b hb
    have herror : files h root none = .error b := (hderails b).mpr hb
    rw [hfiles] at herror
    cases herror
  have hfile : entryFile? h root = .ok (some (root.join "index.js")) := by decide +kernel
  obtain ⟨p, hp, -, -, l, hl, hrecord, -⟩ := hload hnone
  obtain rfl := Option.some.inj (Except.ok.inj (hfile.symm.trans hp))
  refine ⟨hroot, hdir, hempty, hentry, l, hl, ?_⟩
  rw [hrecord]
  decide +kernel

/-- The main file `/` has no name, and the package fails. -/
theorem not_load_entry_slash :
    let h := withManifest "\x7b\"main\": \"/\"\x7d"
    let root : Path := Path.root.join "node_modules/p"
    find? h .root "p" = .ok (some root) ∧ h.tree.isDir root = .ok true ∧
      (∀ place ∈ scriptPlaces, scriptsIn h.tree (root.join place) = []) ∧
      (∃ n ∈ entryNames, h.tree.isFile (root.join n) = .ok true) ∧
      entryFile? h root = .error (.noName .root) ∧
      load h .root ⟨"p", none⟩ = .error (.brokeDown (.noName .root)) := by
  intro h root
  have hroot : find? h .root "p" = .ok (some root) := by decide +kernel
  have hfiles : files h root none = .error (.noName .root) := by decide +kernel
  exact ⟨hroot, by decide +kernel, by decide +kernel, by decide +kernel, by decide +kernel,
    load_of_breakdown hroot hfiles⟩

end ScriptHelp.Package
