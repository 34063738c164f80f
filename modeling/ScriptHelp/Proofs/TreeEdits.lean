import Mathlib.Data.List.Induction
import ScriptHelp.Files.Tree
import ScriptHelp.Proofs.Lists

namespace ScriptHelp

namespace FileTree

open ScriptHelp.Lists Text

/-- The trees differ in the file `n` alone, which holds `old` in one and `new`, or nothing, in the
other. The names lead to its directory. -/
inductive EditedAt (n : String) (old : Bytes) (new : Option Bytes) :
    List String → FileTree → FileTree → Prop
  | file {cs cs'} (hold : cs.lookup n = some (.file old)) (hnew : cs'.lookup n = new.map .file)
    (helse : ∀ m, m ≠ n → cs'.lookup m = cs.lookup m)
    (hnames : new ≠ none → cs'.map (·.1) = cs.map (·.1)) :
    EditedAt n old new [] (.dir cs) (.dir cs')
  | under {m ns cs cs' t u} (ht : cs.lookup m = some t) (hu : cs'.lookup m = some u)
    (h : EditedAt n old new ns t u) (helse : ∀ k, k ≠ m → cs'.lookup k = cs.lookup k)
    (hnames : cs'.map (·.1) = cs.map (·.1)) : EditedAt n old new (m :: ns) (.dir cs) (.dir cs')

def Alike (n : String) (old : Bytes) (new : Option Bytes) (t u : FileTree) : Prop :=
  t = u ∨ ∃ ns, EditedAt n old new ns t u

/-- Where the same names lead in two trees that are alike; `last` is the last of them. -/
inductive Walks (n : String) (old : Bytes) (new : Option Bytes) (last : Option CodePoints) :
    Except Fault Place → Except Fault Place → Prop
  | same {here here' above above'} (h : Alike n old new here here')
    (ha : List.Forall₂ (Alike n old new) above above') :
    Walks n old new last (.ok ⟨here, above⟩) (.ok ⟨here', above'⟩)
  | error (f) : Walks n old new last (.error f) (.error f)
  | file {b above above'} (hlast : last = some (codePoints n)) (hnew : new = some b) :
    Walks n old new last (.ok ⟨.file old, above⟩) (.ok ⟨.file b, above'⟩)
  | gone {above} (hlast : last = some (codePoints n)) (hnew : new = none) :
    Walks n old new last (.ok ⟨.file old, above⟩) (.error .missing)
  | beyond (hnew : new = none) : Walks n old new last (.error .notDirectory) (.error .missing)

def descend : List String → FileTree → Option FileTree
  | [], t => some t
  | n :: ns, .dir cs => (cs.lookup n).bind (descend ns)
  | _ :: _, .file _ => none

variable {n m : String} {old b : Bytes} {new : Option Bytes} {ns : List String}
  {t u here : FileTree} {cs : List (String × FileTree)} {p : Path} {last : Option CodePoints}
  {k : CodePoints} {names : List CodePoints} {r r' : Except Fault Place} {above : List FileTree}

theorem lookup_alterChild (n k : String) (f : Option FileTree → FileTree)
    (cs : List (String × FileTree)) : (alterChild n f cs).lookup k =
      if k = n then some (f (cs.lookup n)) else cs.lookup k := by
  induction cs with
  | nil => simp [alterChild, lookup_cons]
  | cons c cs ih =>
    rw [alterChild]
    by_cases hn : c.1 = n
    · rw [if_pos hn, lookup_cons, lookup_cons, lookup_cons]
      by_cases hk : k = n <;> simp [hk, hn]
    · rw [if_neg hn, lookup_cons, ih, lookup_cons, lookup_cons]
      by_cases hk : k = c.1 <;> simp [hk, hn, Ne.symm hn]

theorem names_alterChild (f : Option FileTree → FileTree) (h : cs.lookup n = some t) :
    (alterChild n f cs).map (·.1) = cs.map (·.1) := by
  induction cs with
  | nil => simp at h
  | cons c cs ih =>
    rw [alterChild]
    by_cases hn : c.1 = n
    · rw [if_pos hn]
      rfl
    · rw [lookup_cons, if_neg (Ne.symm hn)] at h
      rw [if_neg hn, List.map_cons, ih h, List.map_cons]

theorem descend_cons (h : descend (m :: ns) t = some here) :
    ∃ cs s, t = .dir cs ∧ cs.lookup m = some s ∧ descend ns s = some here := by
  cases t with
  | file c => exact absurd h (by simp [descend])
  | dir cs =>
    obtain ⟨s, hs, hns⟩ := Option.bind_eq_some_iff.mp h
    exact ⟨cs, s, rfl, hs, hns⟩

/-- Overwriting a file edits the tree. -/
theorem editedAt_put (h : descend (ns ++ [n]) t = some (.file old)) :
    EditedAt n old (some b) ns t (put (.file b) (ns ++ [n]) (some t)) := by
  induction ns generalizing t with
  | nil =>
    obtain ⟨cs, s, rfl, hs, hfile⟩ := descend_cons h
    obtain rfl : s = .file old := Option.some.inj hfile
    refine .file hs ?_ ?_ fun _ => names_alterChild _ hs
    · rw [lookup_alterChild, if_pos rfl]
      rfl
    · intro m hm
      rw [lookup_alterChild, if_neg hm]
  | cons m ns ih =>
    obtain ⟨cs, s, rfl, hs, hns⟩ := descend_cons h
    refine .under hs ?_ (ih hns) ?_ (names_alterChild _ hs)
    · rw [lookup_alterChild, if_pos rfl, hs]
      rfl
    · intro k hk
      rw [lookup_alterChild, if_neg hk]

theorem dropAt_under (m : String) (ns : List String) (n : String) (cs : List (String × FileTree)) :
    dropAt (m :: (ns ++ [n])) (.dir cs) =
      .dir (cs.map fun c => if c.1 = m then (c.1, dropAt (ns ++ [n]) c.2) else c) := by
  cases ns <;> rfl

/-- Deleting a file edits the tree. -/
theorem editedAt_dropAt (h : descend (ns ++ [n]) t = some (.file old)) :
    EditedAt n old none ns t (dropAt (ns ++ [n]) t) := by
  induction ns generalizing t with
  | nil =>
    obtain ⟨cs, s, rfl, hs, hfile⟩ := descend_cons h
    obtain rfl : s = .file old := Option.some.inj hfile
    refine .file hs ?_ ?_ fun hnone => absurd rfl hnone
    · exact (lookup_filter_ne n n cs).trans (if_pos rfl)
    · intro m hm
      exact (lookup_filter_ne n m cs).trans (if_neg hm)
  | cons m ns ih =>
    obtain ⟨cs, s, rfl, hs, hns⟩ := descend_cons h
    rw [List.cons_append, dropAt_under]
    refine .under hs ?_ (ih hns) ?_ ?_
    · rw [lookup_map_at, if_pos rfl, hs]
      rfl
    · intro k hk
      rw [lookup_map_at, if_neg hk]
    · rw [List.map_map]
      apply List.map_congr_left
      intro c _
      change (if c.1 = m then (c.1, dropAt (ns ++ [n]) c.2) else c).1 = c.1
      split_ifs <;> rfl

theorem Alike.refl (t : FileTree) : Alike n old new t t := .inl rfl

theorem Alike.lookup {cs' : List (String × FileTree)} (h : Alike n old new (.dir cs) (.dir cs'))
    (m : String) : (cs.lookup m = none ∧ cs'.lookup m = none) ∨
      (∃ t u, cs.lookup m = some t ∧ cs'.lookup m = some u ∧ Alike n old new t u) ∨
      m = n ∧ cs.lookup m = some (.file old) ∧ cs'.lookup m = new.map .file := by
  have hsame : ∀ {cs₁ cs₂ : List (String × FileTree)}, cs₂.lookup m = cs₁.lookup m →
      (cs₁.lookup m = none ∧ cs₂.lookup m = none) ∨
        ∃ t u, cs₁.lookup m = some t ∧ cs₂.lookup m = some u ∧ Alike n old new t u := by
    intro cs₁ cs₂ hm
    cases ht : cs₁.lookup m with
    | none => exact .inl ⟨rfl, hm.trans ht⟩
    | some t => exact .inr ⟨t, t, rfl, hm.trans ht, .refl t⟩
  obtain heq | ⟨ns, h⟩ := h
  · obtain rfl := FileTree.dir.inj heq
    exact (hsame rfl).imp_right .inl
  · cases h with
    | file hold hnew helse _ =>
      by_cases hm : m = n
      · subst hm
        exact .inr (.inr ⟨rfl, hold, hnew⟩)
      · exact (hsame (helse m hm)).imp_right .inl
    | @under k ns _ _ t u ht hu h helse _ =>
      by_cases hm : m = k
      · subst hm
        exact .inr (.inl ⟨t, u, ht, hu, .inr ⟨ns, h⟩⟩)
      · exact (hsame (helse m hm)).imp_right .inl

/-- Trees that are alike are equal files or both directories. -/
theorem Alike.cases (h : Alike n old new t u) : (∃ c, t = .file c ∧ u = .file c) ∨
    ∃ cs cs', t = .dir cs ∧ u = .dir cs' ∧ (new ≠ none → cs'.map (·.1) = cs.map (·.1)) := by
  obtain rfl | ⟨ns, h⟩ := h
  · cases t with
    | file c => exact .inl ⟨c, rfl, rfl⟩
    | dir cs => exact .inr ⟨cs, cs, rfl, rfl, fun _ => rfl⟩
  · cases h with
    | file _ _ _ hnames => exact .inr ⟨_, _, rfl, rfl, hnames⟩
    | under _ _ _ _ hnames => exact .inr ⟨_, _, rfl, rfl, fun _ => hnames⟩

@[simp] theorem child?_codePoints (cs : List (String × FileTree)) (n : String) :
    child? cs (codePoints n) = cs.lookup n := by
  rw [child?, CodePoints.text?_codePoints, Option.bind_some]

theorem Alike.child? {cs' : List (String × FileTree)} (h : Alike n old new (.dir cs) (.dir cs'))
    (k : CodePoints) : (child? cs k = none ∧ child? cs' k = none) ∨
      (∃ t u, child? cs k = some t ∧ child? cs' k = some u ∧ Alike n old new t u) ∨
      k = codePoints n ∧ child? cs k = some (.file old) ∧ child? cs' k = new.map .file := by
  cases hk : k.text? with
  | none => exact .inl ⟨by rw [FileTree.child?, hk]; rfl, by rw [FileTree.child?, hk]; rfl⟩
  | some m =>
    obtain rfl := CodePoints.text?_eq_some_iff.mp hk
    simp only [child?_codePoints, CodePoints.codePoints_inj]
    exact h.lookup m

theorem step_file (c : Bytes) (above : List FileTree) (k : CodePoints) :
    Place.step ⟨.file c, above⟩ k = .error .notDirectory := rfl

theorem step_up (cs : List (String × FileTree)) (above : List FileTree) :
    Place.step ⟨.dir cs, above⟩ Path.parent = .ok (Place.up ⟨.dir cs, above⟩) := rfl

theorem step_down (hk : k ≠ Path.parent) (cs : List (String × FileTree)) (above : List FileTree) :
    Place.step ⟨.dir cs, above⟩ k =
      if maxNameBytes < size k then .error .nameTooLong
      else match child? cs k with
        | some t => .ok ⟨t, .dir cs :: above⟩
        | none => .error .missing := if_neg hk

/-- Following one name and then the others. -/
theorem foldlM_down (hk : k ≠ Path.parent) (names : List CodePoints) (cs : List (String × FileTree))
    (above : List FileTree) : (k :: names).foldlM Place.step ⟨.dir cs, above⟩ =
      if maxNameBytes < size k then .error .nameTooLong
      else match child? cs k with
        | some t => names.foldlM Place.step ⟨t, .dir cs :: above⟩
        | none => .error .missing := by
  rw [List.foldlM_cons, step_down hk]
  split_ifs
  · rfl
  · cases child? cs k <;> rfl

theorem Walks.step (h : Walks n old new last r r') (k : CodePoints) :
    Walks n old new (some k) (r >>= (Place.step · k)) (r' >>= (Place.step · k)) := by
  cases h with
  | error f => exact .error f
  | beyond hnew => exact .beyond hnew
  | gone _ hnew => exact .beyond hnew
  | file _ hnew => exact .error _
  | @same here here' above above' h ha =>
    change Walks _ _ _ _ (Place.step ⟨here, above⟩ k) (Place.step ⟨here', above'⟩ k)
    obtain ⟨c, rfl, rfl⟩ | ⟨cs, cs', rfl, rfl, -⟩ := h.cases
    · exact .error _
    · by_cases hup : k = Path.parent
      · -- the directories above are alike too
        subst hup
        rw [step_up, step_up]
        cases ha with
        | nil => exact .same h .nil
        | cons hp hps => exact .same hp hps
      · rw [step_down hup, step_down hup]
        split_ifs
        · exact .error _
        · obtain ⟨ht, hu⟩ | ⟨t, u, ht, hu, htu⟩ | ⟨rfl, hold, hnew⟩ := h.child? k
          · rw [ht, hu]
            exact .error _
          · rw [ht, hu]
            exact .same htu (.cons h ha)
          · rw [hold, hnew]
            cases new with
            | none => exact .gone rfl rfl
            | some b => exact .file rfl rfl

/-- Paths lead alike through trees that are alike. -/
theorem Alike.walks (h : Alike n old new t u) (p : Path) :
    Walks n old new p.names.getLast? (t.walk p) (u.walk p) := by
  unfold walk
  split_ifs
  · exact .error _
  generalize p.names = names
  -- from the end, since the file that differs is met under the last name
  induction names using List.reverseRecOn with
  | nil => exact .same h .nil
  | append_singleton names k ih =>
    rw [List.foldlM_append, List.foldlM_append, List.getLast?_concat]
    have hone : ∀ start, List.foldlM Place.step start [k] = Place.step start k := by
      intro start
      rw [List.foldlM_cons]
      cases Place.step start k <;> rfl
    simp only [hone]
    exact ih.step k

theorem name_of_getLast? (h : p.names.getLast? = some k) : p.name = k := by
  rw [Path.name, List.getLastD_eq_getLast?, h]
  rfl

/-- A path tests alike as a file in both trees, unless it leads to the deleted file. -/
theorem Alike.isFile_cases (h : Alike n old new t u) (p : Path) : u.isFile p = t.isFile p ∨
    new = none ∧ p.name = n ∧ t.isFile p = .ok true ∧ u.isFile p = .ok false := by
  have hwalks := h.walks p
  simp only [FileTree.isFile, test, locate]
  generalize t.walk p = r, u.walk p = r' at hwalks ⊢
  split_ifs
  · cases hwalks with
    | same h _ => obtain ⟨c, rfl, rfl⟩ | ⟨cs, cs', rfl, rfl, -⟩ := h.cases <;> exact .inl rfl
    | gone hlast hnew => exact .inr ⟨hnew, name_of_getLast? hlast, rfl, rfl⟩
    | _ => exact .inl rfl
  · exact .inl rfl

theorem Alike.isFile (h : Alike n old new t u) (hp : new ≠ none ∨ p.name ≠ n) :
    u.isFile p = t.isFile p := by
  obtain hsame | ⟨hnew, hname, -⟩ := h.isFile_cases p
  · exact hsame
  · exact absurd hp (by simp [hnew, hname])

theorem Alike.isDir (h : Alike n old new t u) (p : Path) : u.isDir p = t.isDir p := by
  have hwalks := h.walks p
  simp only [FileTree.isDir, test, locate]
  generalize t.walk p = r, u.walk p = r' at hwalks ⊢
  cases hwalks with
  | same h _ => obtain ⟨c, rfl, rfl⟩ | ⟨cs, cs', rfl, rfl, -⟩ := h.cases <;> rfl
  | _ => rfl

theorem Alike.list (h : Alike n old new t u) (hnew : new ≠ none) (p : Path) :
    u.list p = t.list p := by
  have hwalks := h.walks p
  simp only [FileTree.list, locate]
  generalize t.walk p = r, u.walk p = r' at hwalks ⊢
  cases hwalks with
  | same h _ =>
    obtain ⟨c, rfl, rfl⟩ | ⟨cs, cs', rfl, rfl, hnames⟩ := h.cases
    · rfl
    · simp only [Except.mapError, bind, Except.bind, hnames hnew]
  | gone _ hnone => exact absurd hnone hnew
  | beyond hnone => exact absurd hnone hnew
  | _ => rfl

/-- A file reads the same in both trees, except the edited one. -/
theorem Alike.readBytes (h : Alike n old new t u) (hp : new ≠ none ∨ t.isFile p = .ok true) :
    u.readBytes p = t.readBytes p ∨
      p.name = n ∧ t.readBytes p = .ok old ∧ ∀ b, new = some b → u.readBytes p = .ok b := by
  have hwalks := h.walks p
  simp only [FileTree.isFile, test, locate] at hp
  simp only [FileTree.readBytes, locate]
  generalize t.walk p = r, u.walk p = r' at hwalks hp ⊢
  cases hwalks with
  | same h _ => obtain ⟨c, rfl, rfl⟩ | ⟨cs, cs', rfl, rfl, -⟩ := h.cases <;> exact .inl rfl
  | file hlast hnew =>
    refine .inr ⟨name_of_getLast? hlast, rfl, fun b hb => ?_⟩
    obtain rfl := Option.some.inj (hnew.symm.trans hb)
    rfl
  | gone hlast hnew =>
    refine .inr ⟨name_of_getLast? hlast, rfl, fun b hb => ?_⟩
    exact absurd (hnew.symm.trans hb) (by simp)
  | beyond hnew =>
    obtain hne | hfile := hp
    · exact absurd hnew hne
    · split_ifs at hfile
      · simp [Except.mapError] at hfile
      · simp at hfile
  | _ => exact .inl rfl

/-- Without `..` the directories above do not matter. -/
theorem here_foldlM (h : Path.parent ∉ names) (t : FileTree) (above above' : List FileTree) :
    (names.foldlM Place.step ⟨t, above⟩).map Place.here =
      (names.foldlM Place.step ⟨t, above'⟩).map Place.here := by
  induction names generalizing t above above' with
  | nil => rfl
  | cons k names ih =>
    rw [List.mem_cons, not_or] at h
    cases t with
    | file c => rfl
    | dir cs =>
      rw [foldlM_down (Ne.symm h.1), foldlM_down (Ne.symm h.1)]
      split_ifs
      · rfl
      · cases child? cs k with
        | none => rfl
        | some t => exact ih h.2 t _ _

/-- Names other than the edited file lead to the same in both trees. -/
theorem EditedAt.sameHere (h : EditedAt n old new ns t u) (hk : k ≠ n)
    (hdots : Path.parent ∉ ns.map codePoints ++ k :: names) (above above' : List FileTree) :
    ((ns.map codePoints ++ k :: names).foldlM Place.step ⟨u, above'⟩).map Place.here =
      ((ns.map codePoints ++ k :: names).foldlM Place.step ⟨t, above⟩).map Place.here := by
  induction h generalizing above above' with
  | @file cs cs' _ _ helse _ =>
    rw [List.map_nil, List.nil_append, List.mem_cons, not_or] at hdots
    have hchild : child? cs' k = child? cs k := by
      cases htext : k.text? with
      | none => simp only [child?, htext, Option.bind_none]
      | some m =>
        obtain rfl := CodePoints.text?_eq_some_iff.mp htext
        rw [child?_codePoints, child?_codePoints, helse m fun hm => hk (congrArg codePoints hm)]
    rw [List.map_nil, List.nil_append, foldlM_down (Ne.symm hdots.1),
      foldlM_down (Ne.symm hdots.1), hchild]
    split_ifs
    · rfl
    · cases child? cs k with
      | none => rfl
      | some t => exact here_foldlM hdots.2 t _ _
  | @under m ns cs cs' t u ht hu _ _ _ ih =>
    rw [List.map_cons, List.cons_append, List.mem_cons, not_or] at hdots
    rw [List.map_cons, List.cons_append, foldlM_down (Ne.symm hdots.1),
      foldlM_down (Ne.symm hdots.1), child?_codePoints, child?_codePoints, ht, hu]
    split_ifs
    · rfl
    · exact ih hdots.2 _ _

theorem list_congr (h : (u.walk p).map Place.here = (t.walk p).map Place.here) :
    u.list p = t.list p := by
  have hlist : ∀ v : FileTree, v.list p = match (v.walk p).map Place.here with
      | .error f => .error ⟨f, p⟩
      | .ok (.dir cs) => .ok ((cs.map (·.1)).mergeSort fun a b => decide (a ≤ b))
      | .ok (.file _) => .error ⟨.notDirectory, p⟩ := by
    intro v
    simp only [FileTree.list, locate]
    rcases v.walk p with f | ⟨c | cs, above⟩ <;> rfl
  rw [hlist, hlist, h]

theorem EditedAt.list (h : EditedAt n old new ns t u) (hk : k ≠ n)
    (hp : p.names = ns.map codePoints ++ k :: names) (hdots : Path.parent ∉ p.names) :
    u.list p = t.list p := by
  apply list_congr
  unfold walk
  split_ifs
  · rfl
  · rw [hp] at hdots ⊢
    exact h.sameHere hk hdots [] []

/-- The edited file's names lead to the new content, or nowhere. -/
theorem EditedAt.foldlM {place : Place} (h : EditedAt n old new ns t u)
    (hdots : Path.parent ∉ (ns ++ [n]).map codePoints) (above' : List FileTree)
    (hread : ((ns ++ [n]).map codePoints).foldlM Place.step ⟨t, above⟩ = .ok place) :
    (∃ b a, new = some b ∧ ((ns ++ [n]).map codePoints).foldlM Place.step ⟨u, above'⟩ =
        .ok ⟨.file b, a⟩) ∨
      new = none ∧
        ((ns ++ [n]).map codePoints).foldlM Place.step ⟨u, above'⟩ = .error .missing := by
  induction h generalizing above above' with
  | @file cs cs' hold hnew _ _ =>
    rw [List.nil_append, List.map_singleton, List.mem_singleton] at hdots
    rw [List.nil_append, List.map_singleton, foldlM_down (Ne.symm hdots)] at hread ⊢
    rw [child?_codePoints, hnew]
    split_ifs at hread ⊢
    cases new with
    | some b => exact .inl ⟨b, _, rfl, rfl⟩
    | none => exact .inr ⟨rfl, rfl⟩
  | @under m ns cs cs' t u ht hu _ _ _ ih =>
    rw [List.cons_append, List.map_cons, List.mem_cons, not_or] at hdots
    rw [List.cons_append, List.map_cons, foldlM_down (Ne.symm hdots.1), child?_codePoints]
      at hread ⊢
    rw [hu]
    rw [ht] at hread
    split_ifs at hread ⊢
    exact ih hdots.2 _ hread

theorem exists_descend (h : Path.parent ∉ names) {above' : List FileTree}
    (hread : names.foldlM Place.step ⟨t, above⟩ = .ok ⟨here, above'⟩) :
    ∃ ns : List String, names = ns.map codePoints ∧ descend ns t = some here := by
  induction names generalizing t above with
  | nil =>
    obtain ⟨rfl, -⟩ := Place.mk.inj (Except.ok.inj hread)
    exact ⟨[], rfl, rfl⟩
  | cons k names ih =>
    rw [List.mem_cons, not_or] at h
    cases t with
    | file c => exact absurd hread (by simp [step_file, bind, Except.bind])
    | dir cs =>
      rw [foldlM_down (Ne.symm h.1)] at hread
      split_ifs at hread
      cases ht : child? cs k with
      | none => exact absurd hread (by simp [ht])
      | some t =>
        rw [ht] at hread
        obtain ⟨m, hm, hlookup⟩ := Option.bind_eq_some_iff.mp ht
        obtain rfl := CodePoints.text?_eq_some_iff.mp hm
        obtain ⟨ns, rfl, hns⟩ := ih h.2 hread
        refine ⟨m :: ns, rfl, ?_⟩
        rw [descend, hlookup]
        exact hns

/-- A path that can be followed in one tree is short enough in every tree. -/
theorem walk_eq_foldlM {place : Place} (h : t.walk p = .ok place) (u : FileTree) :
    u.walk p = p.names.foldlM Place.step ⟨u, []⟩ := by
  unfold walk at h ⊢
  split_ifs at h ⊢
  rfl

theorem walk_of_readBytes {c : Bytes} (h : t.readBytes p = .ok c) :
    ∃ above, t.walk p = .ok ⟨.file c, above⟩ := by
  simp only [FileTree.readBytes, locate] at h
  rcases hw : t.walk p with f | ⟨c' | cs, above⟩
  · exact absurd h (by simp [hw, Except.mapError, bind, Except.bind])
  · rw [hw] at h
    obtain rfl : c' = c := Except.ok.inj h
    exact ⟨above, rfl⟩
  · exact absurd h (by simp [hw, Except.mapError, bind, Except.bind])

theorem exists_descend_of_readBytes {c : Bytes} (h : t.readBytes p = .ok c)
    (hdots : Path.parent ∉ p.names) :
    ∃ ns : List String, p.names = ns.map codePoints ∧ descend ns t = some (.file c) := by
  obtain ⟨above, hwalk⟩ := walk_of_readBytes h
  rw [walk_eq_foldlM hwalk] at hwalk
  exact exists_descend hdots hwalk

theorem EditedAt.readBytes (h : EditedAt n old new ns t u)
    (hp : p.names = (ns ++ [n]).map codePoints) (hdots : Path.parent ∉ p.names)
    (hread : t.readBytes p = .ok old) :
    (∃ b, new = some b ∧ u.readBytes p = .ok b) ∨
      new = none ∧ u.readBytes p = .error ⟨.missing, p⟩ := by
  obtain ⟨above, hwalk⟩ := walk_of_readBytes hread
  have hu := walk_eq_foldlM hwalk u
  rw [walk_eq_foldlM hwalk] at hwalk
  rw [hp] at hdots hwalk hu
  obtain ⟨b, a, hb, hfold⟩ | ⟨hnone, hfold⟩ := h.foldlM hdots [] hwalk
  · refine .inl ⟨b, hb, ?_⟩
    simp only [FileTree.readBytes, locate, hu, hfold]
    rfl
  · refine .inr ⟨hnone, ?_⟩
    simp only [FileTree.readBytes, locate, hu, hfold]
    rfl

end FileTree

namespace Path

open Text

theorem not_mem_foldNames (names : List CodePoints) : parent ∉ foldNames names := by
  have hfold : ∀ names done : List CodePoints, parent ∉ done →
      parent ∉ names.foldl foldName done := by
    intro names
    induction names with
    | nil => exact fun done h => h
    | cons n names ih =>
      intro done h
      refine ih _ ?_
      unfold foldName
      split_ifs with hn
      · exact fun hmem => h (List.mem_of_mem_tail hmem)
      · rw [List.mem_cons, not_or]
        exact ⟨Ne.symm hn, h⟩
  rw [foldNames, List.mem_reverse]
  exact hfold names [] List.not_mem_nil

theorem foldNames_eq_self {names : List CodePoints} (h : parent ∉ names) :
    foldNames names = names := by
  have hfold : ∀ names done : List CodePoints, parent ∉ names →
      names.foldl foldName done = names.reverse ++ done := by
    intro names
    induction names with
    | nil => exact fun done _ => rfl
    | cons n names ih =>
      intro done h
      rw [List.mem_cons, not_or] at h
      rw [List.foldl_cons, foldName, if_neg (Ne.symm h.1), ih _ h.2, List.reverse_cons,
        List.append_assoc, List.singleton_append]
  rw [foldNames, hfold names [] h, List.append_nil, List.reverse_reverse]

end Path

namespace FileTree

open Text

theorem textNames?_of_text {p : Path} {ns : List String} (hp : p.names = ns.map codePoints)
    (hdots : Path.parent ∉ p.names) : textNames? p = some ns := by
  have hall : ∀ ns : List String, (ns.map codePoints).mapM CodePoints.text? = some ns := by
    intro ns
    induction ns with
    | nil => rfl
    | cons n ns ih => simp [List.mapM_cons, ih]
  rw [textNames?, Path.resolve, Path.foldNames_eq_self hdots, hp, hall]

end FileTree

end ScriptHelp
