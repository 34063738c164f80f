import Mathlib.Data.List.DropRight
import ScriptHelp.Header

namespace ScriptHelp

namespace Text

theorem pieces_eq_splitOnP (p : Char → Bool) (cs : List Char) : pieces p cs = cs.splitOnP p := by
  induction cs with
  | nil => rfl
  | cons c cs ih =>
    rw [List.splitOnP_cons_eq_if_modifyHead, pieces, ih]
    by_cases hc : p c = true
    · simp only [hc, if_true]
    · have hne := List.splitOnP_ne_nil p cs
      simp only [hc, if_false, Bool.false_eq_true]
      cases h : cs.splitOnP p with
      | nil => exact absurd h hne
      | cons l ls => rfl

theorem lineList_eq_splitOn (cs : List Char) : lineList cs = cs.splitOn '\n' := by
  rw [lineList, pieces_eq_splitOnP, List.splitOn_eq_splitOnP]
  congr 1

theorem lowerList_nil : lowerList [] = [] := rfl

end Text

namespace Section

def headings (s : Section) : List String :=
  if s = .author then [s.name, "authors"] else [s.name]

theorem named?_eq_some_iff (n : String) (s : Section) : named? n = some s ↔ s.name = n := by
  constructor
  · intro h
    simpa using List.find?_some h
  · rintro rfl
    cases s <;> decide

theorem key_eq_some_iff (n : String) (s : Section) :
    (if n = "authors" then some author else named? n) = some s ↔ n ∈ s.headings := by
  by_cases hn : n = "authors"
  · subst hn
    cases s <;> decide
  · rw [if_neg hn, named?_eq_some_iff, headings]
    split <;> simp [hn, eq_comm]

theorem dropLastIf_eq_iff {a : Char} {cs key : List Char} (h : key.getLast? ≠ some a) :
    dropLastIf a cs = key ↔ cs = key ∨ cs = key ++ [a] := by
  unfold dropLastIf
  by_cases hc : cs.getLast? = some a
  · obtain ⟨ys, rfl⟩ := List.getLast?_eq_some_iff.mp hc
    have hne : ys ++ [a] ≠ key := fun e => h (e ▸ hc)
    simp [hne]
  · have hne : cs ≠ key ++ [a] := by
      rintro rfl
      exact hc (by simp)
    simp [hc, hne]

theorem getLast?_heading {s : Section} {n : String} (h : n ∈ s.headings) :
    n.toList.getLast? ≠ some ':' := by
  have hall : ∀ t ∈ all, ∀ m ∈ t.headings, m.toList.getLast? ≠ some ':' := by decide
  exact hall s (mem_all s) n h

end Section

namespace Header

open Text

def Marked (line : List Char) : Prop := ['/', '/'] <+: line ∨ ['#'] <+: line

instance : DecidablePred Marked := fun line =>
  inferInstanceAs (Decidable (['/', '/'] <+: line ∨ ['#'] <+: line))

def bare (line : List Char) : List Char :=
  trim (if ['/', '/'] <+: line then line.drop 2 else line.drop 1)

/-- The text is a heading of the section up to case and one colon after it. -/
def Opens (s : Section) (cs : List Char) : Prop :=
  ∃ n ∈ s.headings, lowerList cs = n.toList ∨ lowerList cs = n.toList ++ [':']

instance (s : Section) : DecidablePred (Opens s) := fun cs =>
  inferInstanceAs (Decidable (∃ n ∈ s.headings, lowerList cs = n.toList ∨
    lowerList cs = n.toList ++ [':']))

def OpensAny (cs : List Char) : Prop := ∃ s ∈ Section.all, Opens s cs

instance : DecidablePred OpensAny := fun cs =>
  inferInstanceAs (Decidable (∃ s ∈ Section.all, Opens s cs))

/-- Empty lines and placeholders do not count. -/
def Counts (cs : List Char) : Prop := cs ≠ [] ∧ lowerList cs ≠ ['n', 'o', 'n', 'e']

instance : DecidablePred Counts := fun cs =>
  inferInstanceAs (Decidable (cs ≠ [] ∧ lowerList cs ≠ ['n', 'o', 'n', 'e']))

def afterLast (s : Section) (cleaned : List (List Char)) : List (List Char) :=
  cleaned.rtakeWhile fun l => ¬ Opens s l

/-- The lines of a section end at the next heading; there are none if nothing opens it. -/
def told (s : Section) (cleaned : List (List Char)) : List String :=
  if ∃ l ∈ cleaned, Opens s l then
    (((afterLast s cleaned).takeWhile fun l => ¬ OpensAny l).filter Counts).map String.ofList
  else []

/-- The record of comment lines, defined declaratively. -/
def meaning (lines : List (List Char)) : Record :=
  if ∃ l ∈ lines, OpensAny (bare l) then .ofSections fun s => told s (lines.map bare)
  else { commands := (lines.filter ('-' ∈ ·)).map fun l => strip (String.ofList (l.drop 2)) }

theorem ofHeading?_eq_some_iff (cs : List Char) (s : Section) :
    Section.ofHeading? (String.ofList cs) = some s ↔ Opens s cs := by
  have hkey : ∀ n ∈ s.headings, String.ofList (Section.dropLastIf ':' (lowerList cs)) = n ↔
      lowerList cs = n.toList ∨ lowerList cs = n.toList ++ [':'] := by
    intro n hn
    rw [← Section.dropLastIf_eq_iff (Section.getLast?_heading hn), ← String.toList_inj,
      String.toList_ofList]
  unfold Section.ofHeading?
  simp only [String.toList_ofList]
  rw [Section.key_eq_some_iff]
  constructor
  · intro h
    exact ⟨_, h, (hkey _ h).mp rfl⟩
  · rintro ⟨n, hn, h⟩
    rw [(hkey n hn).mpr h]
    exact hn

theorem Opens.unique {s t : Section} {cs : List Char} (hs : Opens s cs) (ht : Opens t cs) :
    s = t := by
  rw [← ofHeading?_eq_some_iff] at hs ht
  exact Option.some.inj (hs.symm.trans ht)

theorem Opens.any {s : Section} {cs : List Char} (h : Opens s cs) : OpensAny cs :=
  ⟨s, Section.mem_all s, h⟩

theorem Opens.counts {s : Section} {cs : List Char} (h : Opens s cs) : Counts cs := by
  obtain ⟨n, hn, h⟩ := h
  have hall : ∀ t ∈ Section.all, ∀ m ∈ t.headings, ∀ cs ∈ [m.toList, m.toList ++ [':']],
      cs ≠ [] ∧ cs ≠ ['n', 'o', 'n', 'e'] := by decide
  have hl : lowerList cs ≠ [] ∧ lowerList cs ≠ ['n', 'o', 'n', 'e'] :=
    hall s (Section.mem_all s) n hn _ (by simpa using h)
  refine ⟨?_, hl.2⟩
  rintro rfl
  exact hl.1 lowerList_nil

theorem afterMarker?_eq (line : List Char) :
    afterMarker? line = if ['/', '/'] <+: line then some (line.drop 2)
      else if ['#'] <+: line then some (line.drop 1) else none := by
  fun_cases afterMarker? line with
  | case1 cs => simp
  | case2 cs => simp
  | case3 _ hs hh =>
    have hs' : ¬ ['/', '/'] <+: line := fun ⟨cs, h⟩ => hs cs h.symm
    have hh' : ¬ ['#'] <+: line := fun ⟨cs, h⟩ => hh cs h.symm
    rw [if_neg hs', if_neg hh']

theorem isComment_iff (line : List Char) : isComment line = true ↔ Marked line := by
  unfold isComment Marked
  rw [afterMarker?_eq]
  split_ifs with hs hh <;> simp_all

theorem clean_eq_bare {line : List Char} (h : Marked line) : clean line = bare line := by
  unfold clean bare
  rw [afterMarker?_eq]
  split_ifs with hs hh
  · rfl
  · rfl
  · exact absurd h (not_or.mpr ⟨hs, hh⟩)

/-- The header block is the longest run of marked lines at the start. -/
theorem block_eq (cs : List Char) : block cs = (cs.splitOn '\n').takeWhile fun l => Marked l := by
  rw [block, lineList_eq_splitOn]
  congr 1
  funext line
  rw [Bool.eq_iff_iff, isComment_iff, decide_eq_true_iff]

namespace Line

variable {raw : List Char}

theorem read_eq_heading {s : Section} (h : Opens s (clean raw)) : read raw = .heading s := by
  have hc := h.counts
  simp only [read, isPlaceholder, List.isEmpty_iff, hc.1, hc.2, beq_iff_eq, Bool.or_eq_true,
    or_self, if_false, (ofHeading?_eq_some_iff _ _).mpr h]

theorem read_eq_text (hc : Counts (clean raw)) (h : ¬ OpensAny (clean raw)) :
    read raw = .text (String.ofList (clean raw)) := by
  have hn : Section.ofHeading? (String.ofList (clean raw)) = none := by
    rw [Option.eq_none_iff_forall_ne_some]
    intro s hs
    exact h ((ofHeading?_eq_some_iff _ _).mp hs).any
  simp only [read, isPlaceholder, List.isEmpty_iff, hc.1, hc.2, beq_iff_eq, Bool.or_eq_true,
    or_self, if_false, hn]

theorem read_eq_void (h : ¬ Counts (clean raw)) : read raw = .void := by
  have h' : clean raw = [] ∨ lowerList (clean raw) = ['n', 'o', 'n', 'e'] := by
    by_contra hn
    exact h (not_or.mp hn)
  simp only [read, isPlaceholder, List.isEmpty_iff, beq_iff_eq, Bool.or_eq_true, h', if_true]

end Line

def Open (s : Section) (cleaned : List (List Char)) : Prop :=
  (∃ l ∈ cleaned, Opens s l) ∧ ∀ l ∈ afterLast s cleaned, ¬ OpensAny l

instance (s : Section) : DecidablePred (Open s) := fun cleaned =>
  inferInstanceAs (Decidable ((∃ l ∈ cleaned, Opens s l) ∧
    ∀ l ∈ afterLast s cleaned, ¬ OpensAny l))

theorem takeWhile_concat (p : α → Bool) (xs : List α) (x : α) :
    (xs ++ [x]).takeWhile p = xs.takeWhile p ++ if (∀ y ∈ xs, p y) ∧ p x then [x] else [] := by
  induction xs with
  | nil => by_cases hx : p x <;> simp [hx]
  | cons y ys ih =>
    by_cases hy : p y
    · simp [hy, ih]
    · simp [hy]

section Concat

variable {s t : Section} {cs : List (List Char)} {l : List Char}

theorem afterLast_concat_opens (h : Opens s l) : afterLast s (cs ++ [l]) = [] :=
  List.rtakeWhile_concat_neg _ _ l (by simpa using h)

theorem afterLast_concat (h : ¬ Opens s l) : afterLast s (cs ++ [l]) = afterLast s cs ++ [l] :=
  List.rtakeWhile_concat_pos _ _ l (by simpa using h)

theorem exists_opens_concat (h : ¬ Opens s l) :
    (∃ m ∈ cs ++ [l], Opens s m) ↔ ∃ m ∈ cs, Opens s m := by
  simp [or_and_right, exists_or, h]

theorem open_concat_heading (h : Opens t l) : Open s (cs ++ [l]) ↔ t = s := by
  constructor
  · rintro ⟨-, ha⟩
    by_contra hne
    have hs : ¬ Opens s l := fun hs => hne (h.unique hs)
    rw [afterLast_concat hs] at ha
    exact ha l (by simp) h.any
  · rintro rfl
    refine ⟨⟨l, by simp, h⟩, ?_⟩
    simp [afterLast_concat_opens h]

theorem open_concat (h : ¬ OpensAny l) : Open s (cs ++ [l]) ↔ Open s cs := by
  have hs : ¬ Opens s l := fun hs => h hs.any
  unfold Open
  rw [exists_opens_concat hs, afterLast_concat hs]
  simp [or_imp, forall_and, h]

theorem told_concat_heading (h : Opens t l) :
    told s (cs ++ [l]) = if t = s then [] else told s cs := by
  by_cases hts : t = s
  · subst hts
    simp [told, afterLast_concat_opens h]
  · have hs : ¬ Opens s l := fun hs => hts (h.unique hs)
    have ha := h.any
    unfold told
    simp only [exists_opens_concat hs, afterLast_concat hs, hts, if_false, takeWhile_concat]
    simp [ha]

/-- A line that is no heading belongs to the open section, if it counts. -/
theorem told_concat (h : ¬ OpensAny l) : told s (cs ++ [l]) =
    told s cs ++ if Open s cs ∧ Counts l then [String.ofList l] else [] := by
  have hs : ¬ Opens s l := fun hs => h hs.any
  unfold told
  simp only [exists_opens_concat hs, afterLast_concat hs, takeWhile_concat]
  by_cases ho : ∃ m ∈ cs, Opens s m
  · by_cases ha : ∀ m ∈ afterLast s cs, ¬ OpensAny m
    · have hopen : Open s cs := ⟨ho, ha⟩
      have hend : (∀ m ∈ afterLast s cs, decide (¬ OpensAny m) = true) ∧
          decide (¬ OpensAny l) = true := ⟨fun m hm => decide_eq_true (ha m hm), decide_eq_true h⟩
      rw [if_pos ho, if_pos ho, if_pos hend]
      by_cases hc : Counts l <;> simp [hopen, hc]
    · have hopen : ¬ Open s cs := fun hopen => ha hopen.2
      have hend : ¬ ((∀ m ∈ afterLast s cs, decide (¬ OpensAny m) = true) ∧
          decide (¬ OpensAny l) = true) :=
        fun hend => ha fun m hm => of_decide_eq_true (hend.1 m hm)
      rw [if_pos ho, if_pos ho, if_neg hend]
      simp [hopen]
  · have hopen : ¬ Open s cs := fun hopen => ho hopen.1
    simp [ho, hopen]

end Concat

/-- The invariant of the reading: the record holds the lines so far, and the current section is the
open one. -/
structure Follows (cleaned : List (List Char)) (r : Reading) : Prop where
  lines : ∀ s, r.record.get s = told s cleaned
  inside : ∀ s, r.current = some s ↔ Open s cleaned
  outside : r.current = none ↔ ∀ l ∈ cleaned, ¬ OpensAny l

theorem follows_nil : Follows [] {} where
  lines s := by cases s <;> rfl
  inside s := by simp [Open]
  outside := by simp

namespace Follows

variable {cs : List (List Char)} {r : Reading} {l : List Char}

theorem heading {t : Section} (h : Follows cs r) (ht : Opens t l) :
    Follows (cs ++ [l]) (r.step (.heading t)) where
  lines s := by
    rw [told_concat_heading ht]
    simp only [Reading.step, Record.get_update, h.lines, eq_comm]
  inside s := by
    rw [open_concat_heading ht]
    simp [Reading.step]
  outside := by
    simpa [Reading.step] using Or.inr ht.any

theorem text (h : Follows cs r) (ho : ¬ OpensAny l) (hc : Counts l) :
    Follows (cs ++ [l]) (r.step (.text (String.ofList l))) where
  lines s := by
    rw [told_concat ho]
    cases hr : r.current with
    | none =>
      have hs : ¬ Open s cs := fun hs => by simp [(h.inside s).mpr hs] at hr
      simp [Reading.step, hr, hs, h.lines]
    | some t =>
      have hs : Open s cs ↔ s = t := by rw [← h.inside, hr, Option.some_inj, eq_comm]
      simp only [Reading.step, hr, Record.get_update, hs, hc, and_true, h.lines]
      split_ifs <;> simp
  inside s := by
    rw [open_concat ho, ← h.inside]
    cases hr : r.current <;> simp [Reading.step, hr]
  outside := by
    have hstep : (r.step (.text (String.ofList l))).current = r.current := by
      cases hr : r.current <;> simp [Reading.step, hr]
    rw [hstep, h.outside]
    simp [or_imp, forall_and, ho]

theorem void (h : Follows cs r) (hc : ¬ Counts l) : Follows (cs ++ [l]) (r.step .void) := by
  have ho : ¬ OpensAny l := fun ⟨s, _, hs⟩ => hc hs.counts
  refine ⟨fun s => ?_, fun s => ?_, ?_⟩
  · rw [told_concat ho, if_neg fun hn => hc hn.2, List.append_nil]
    exact h.lines s
  · rw [open_concat ho]
    exact h.inside s
  · simp only [Reading.step, h.outside]
    simp [or_imp, forall_and, ho]

theorem step {raw : List Char} (h : Follows cs r) :
    Follows (cs ++ [clean raw]) (r.step (.read raw)) := by
  by_cases ho : OpensAny (clean raw)
  · obtain ⟨t, -, ht⟩ := ho
    rw [Line.read_eq_heading ht]
    exact h.heading ht
  · by_cases hc : Counts (clean raw)
    · rw [Line.read_eq_text hc ho]
      exact h.text ho hc
    · rw [Line.read_eq_void hc]
      exact h.void hc

/-- The reading of any comment lines satisfies the invariant. -/
theorem lines_read (raws : List (List Char)) :
    Follows (raws.map clean) ((raws.map Line.read).foldl Reading.step {}) := by
  induction raws using List.reverseRecOn with
  | nil => exact follows_nil
  | append_singleton raws raw ih =>
    rw [List.map_append, List.map_append, List.foldl_append]
    exact ih.step

end Follows

/-- Reading any text gives the declarative record of its comment lines. -/
theorem read_eq_meaning (text : String) :
    read text = meaning ((text.toList.splitOn '\n').takeWhile fun l => Marked l) := by
  rw [← block_eq]
  have hmarked : ∀ l ∈ block text.toList, Marked l := by
    intro l hl
    exact (isComment_iff l).mp (List.mem_takeWhile_imp hl)
  have hclean : (block text.toList).map clean = (block text.toList).map bare :=
    List.map_congr_left fun l hl => clean_eq_bare (hmarked l hl)
  have h := Follows.lines_read (block text.toList)
  rw [hclean] at h
  unfold read meaning
  cases hr : ((block text.toList).map Line.read |>.foldl Reading.step {}).current with
  | none =>
    have hn := h.outside.mp hr
    rw [if_neg (by simpa using hn)]
    simp [hr, plainCommands, strip]
  | some t =>
    have hn : ∃ l ∈ block text.toList, OpensAny (bare l) := by
      by_contra hn
      have := h.outside.mpr (by simpa using hn)
      simp [hr] at this
    rw [if_pos hn]
    simp only [hr]
    exact Record.ext_get fun s => by rw [h.lines, Record.get_ofSections]

example : read "# Commands:\n#  a - x\n# Notes\n# none\n//AUTHORS:\n# b\n# commands\n# c" =
    { author := ["b"], commands := ["c"] } := by decide +kernel

end Header

end ScriptHelp
