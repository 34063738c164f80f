import ScriptHelp.Index
import ScriptHelp.Proofs.LetterCase
import ScriptHelp.Proofs.TextParts

namespace ScriptHelp.Index

/-- With `room` stack frames left, the query compiles or is an invalid pattern. -/
def Legible (room : Nat) (q : String) : Prop :=
  ∀ f, Pattern.ofString room q = .error f → f = .invalid

instance (room : Nat) : DecidablePred (Legible room) := fun q =>
  match h : Pattern.ofString room q with
  | .ok p => .isTrue (by simp [Legible, h])
  | .error f => decidable_of_iff (f = .invalid) (by simp [Legible, h])

instance (room : Nat) (q : String) (f : Pattern.Fault) :
    Decidable (Pattern.ofString room q = .error f) :=
  match h : Pattern.ofString room q with
  | .ok p => .isFalse (by simp)
  | .error g => decidable_of_iff (g = f) (by simp)

/-- The entry matches the query in a tier; the ignored words are no terms. -/
def Entry.Answers (room : Nat) (ignored : List String) (q : String) (e : Entry) : Tier → Prop
  | .part => (Text.lower q).toList <:+: e.lowered.toList
  | .pattern => ∃ p, Pattern.ofString room q = .ok p ∧ p.occursIn e.command = true
  | .words => ∃ w : String, Text.IsWord w.toList e.lowered.toList ∧
      Text.IsWord w.toList (Text.lower q).toList ∧ w ∉ ignored

variable {i : Index} {e : Entry} {es : List Entry} {q : String} {t : Tier} {room : Nat}

theorem matchesPart_iff : matchesPart q e = true ↔ e.Answers room i.stopWords q .part := by
  rw [matchesPart, Text.isPart_iff, Entry.Answers, Text.lower, String.toList_ofList]

theorem mem_terms {w : String} : w ∈ i.terms q ↔
    Text.IsWord w.toList (Text.lower q).toList ∧ w ∉ i.stopWords := by
  simp [terms, Text.mem_words]

theorem matchesWords_iff : i.matchesWords q e = true ↔ e.Answers room i.stopWords q .words := by
  simp only [matchesWords, List.any_eq_true, List.contains_iff_mem, mem_terms, Text.mem_words]
  rfl

instance (room : Nat) (ignored : List String) (q : String) (e : Entry) :
    DecidablePred (e.Answers room ignored q)
  | .part => decidable_of_iff _ (matchesPart_iff (i := ⟨[], ignored, room⟩))
  | .pattern =>
    match h : Pattern.ofString room q with
    | .ok p => decidable_of_iff (p.occursIn e.command = true) (by simp [Entry.Answers, h])
    | .error f => .isFalse (by simp [Entry.Answers, h])
  | .words => decidable_of_iff _ (matchesWords_iff (i := ⟨[], ignored, room⟩))

def hits (i : Index) (q : String) (t : Tier) : List Entry :=
  i.entries.filter fun e => e.Answers i.room i.stopWords q t

theorem found_part : i.found q .part = .ok (i.hits q .part) := by
  refine congrArg Except.ok (List.filter_congr fun e _ => ?_)
  rw [Bool.eq_iff_iff, decide_eq_true_iff]
  exact matchesPart_iff

theorem found_words : i.found q .words = .ok (i.hits q .words) := by
  refine congrArg Except.ok (List.filter_congr fun e _ => ?_)
  rw [Bool.eq_iff_iff, decide_eq_true_iff]
  exact matchesWords_iff

theorem found_pattern (hq : Legible i.room q) : i.found q .pattern = .ok (i.hits q .pattern) := by
  cases h : Pattern.ofString i.room q with
  | ok p => simp [found, hits, Entry.Answers, h]
  | error f =>
    obtain rfl := hq f h
    simp [found, hits, Entry.Answers, h]

theorem found_eq (hq : Legible i.room q) : ∀ t, i.found q t = .ok (i.hits q t)
  | .part => found_part
  | .pattern => found_pattern hq
  | .words => found_words

def deciding? (i : Index) (q : String) : Option Tier := Tier.all.find? fun t => i.hits q t ≠ []

def hitsIn (i : Index) (q : String) : Option Tier → List Entry
  | some t => i.hits q t
  | none => []

theorem searchIn_eq (hq : Legible i.room q) (ts : List Tier) :
    i.searchIn q ts = .ok (i.hitsIn q (ts.find? fun t => i.hits q t ≠ [])) := by
  induction ts with
  | nil => rfl
  | cons t ts ih =>
    rw [searchIn, found_eq hq t]
    -- an empty tier leaves the query to the next ones
    cases h : i.hits q t with
    | nil => simpa [h, bind, Except.bind] using ih
    | cons e es => simp [h, hitsIn, bind, Except.bind, pure, Except.pure]

theorem search_eq (hq : Legible i.room q) :
    i.search q = .ok ((i.hitsIn q (i.deciding? q)).map Entry.command) := by
  rw [search, searchIn_eq hq]
  rfl

/-- No command contains the query, and compiling it fails other than as an invalid pattern. -/
def Breaks (i : Index) (q : String) (f : Pattern.Fault) : Prop :=
  i.hits q .part = [] ∧ Pattern.ofString i.room q = .error f ∧ f ≠ .invalid

theorem search_eq_error_iff {f : Pattern.Fault} : i.search q = .error f ↔ i.Breaks q f := by
  by_cases hq : Legible i.room q
  · rw [search_eq hq]
    refine iff_of_false (by simp) fun ⟨_, hf, hne⟩ => hne (hq f hf)
  · obtain ⟨g, hg, hne⟩ : ∃ g, Pattern.ofString i.room q = .error g ∧ g ≠ .invalid := by
      simpa [Legible] using hq
    have hpattern : i.found q .pattern = .error g := by simp [found, hg]
    -- the term tier comes after the pattern tier, so it is never reached
    rw [search, Tier.all, searchIn, found_part, searchIn, hpattern, Breaks, hg]
    cases i.hits q .part with
    | nil =>
      refine ⟨fun h => ?_, fun h => ?_⟩
      · obtain rfl : g = f := Except.error.inj h
        exact ⟨rfl, rfl, hne⟩
      · obtain rfl : g = f := Except.error.inj h.2.1
        rfl
    | cons e es => exact iff_of_false (by simp [bind, Except.bind, pure, Except.pure]) (by simp)

theorem search_eq_ok_iff : (∃ found, i.search q = .ok found) ↔ ∀ f, ¬ i.Breaks q f := by
  simp only [← search_eq_error_iff]
  cases i.search q <;> simp

theorem hits_eq_nil_of_deciding? (h : i.deciding? q = none) (t : Tier) : i.hits q t = [] := by
  have hall : t ∈ Tier.all := by cases t <;> decide
  simpa using List.find?_eq_none.mp h t hall

theorem hits_ne_nil_of_deciding? (h : i.deciding? q = some t) : i.hits q t ≠ [] := by
  simpa using List.find?_some h

theorem hitsIn_deciding?_eq_nil : i.hitsIn q (i.deciding? q) = [] ↔ ∀ t, i.hits q t = [] := by
  cases h : i.deciding? q with
  | none => exact iff_of_true rfl (hits_eq_nil_of_deciding? h)
  | some t =>
    have hne := hits_ne_nil_of_deciding? h
    exact iff_of_false hne fun hall => hne (hall t)

theorem deciding?_eq_some {before after : List Tier} (hall : Tier.all = before ++ t :: after)
    (hbefore : ∀ u ∈ before, i.hits q u = []) (ht : i.hits q t ≠ []) : i.deciding? q = some t := by
  refine List.find?_eq_some_iff_append.mpr ⟨by simpa using ht, before, after, hall, fun u hu => ?_⟩
  simpa using hbefore u hu

def extend (i : Index) (es : List Entry) : Index := { i with entries := i.entries ++ es }

def only (i : Index) (es : List Entry) : Index := { i with entries := es }

theorem hits_extend : (i.extend es).hits q t = i.hits q t ++ (i.only es).hits q t :=
  List.filter_append _ _

/-- The earlier of two tiers; no tier counts as last. -/
def Tier.earlier (a b : Option Tier) : Option Tier :=
  Tier.all.find? fun t => a = some t ∨ b = some t

theorem find?_or {α : Type} [DecidableEq α] (p r : α → Bool) (ts : List α) :
    ts.find? (fun t => p t || r t) =
      ts.find? fun t => ts.find? p = some t ∨ ts.find? r = some t := by
  induction ts with
  | nil => rfl
  | cons t ts ih =>
    cases hp : p t with
    | true => simp [hp]
    | false =>
      cases hr : r t with
      | true => simp [hp, hr]
      | false =>
        have hfp : ts.find? p ≠ some t := fun h => by simp [List.find?_some h] at hp
        have hfr : ts.find? r ≠ some t := fun h => by simp [List.find?_some h] at hr
        simp [hp, hr, hfp, hfr, ih]

theorem deciding?_extend : (i.extend es).deciding? q =
    Tier.earlier (i.deciding? q) ((i.only es).deciding? q) := by
  have hor : (fun t => decide ((i.extend es).hits q t ≠ [])) =
      fun t => decide (i.hits q t ≠ []) || decide ((i.only es).hits q t ≠ []) := by
    funext t
    -- a tier finds something in the whole iff it does in one of the two parts
    rw [hits_extend, Bool.eq_iff_iff]
    simp [or_iff_not_imp_left]
  rw [deciding?, hor, find?_or]
  rfl

theorem hitsIn_extend (o : Option Tier) :
    (i.extend es).hitsIn q o = i.hitsIn q o ++ (i.only es).hitsIn q o := by
  cases o with
  | none => rfl
  | some t => exact hits_extend

/-- The English stop words are lowercase already. -/
theorem english_lowered : Stopwords.english.map Text.lower = Stopwords.english := by
  have hplain : (Stopwords.english.all fun w => w.toList.all Text.plain) = true := by decide +kernel
  refine (List.map_congr_left fun w hw => ?_).trans (List.map_id _)
  exact Text.lower_of_lowercase fun c hc =>
    Text.lowerChar_of_plain (List.all_eq_true.mp (List.all_eq_true.mp hplain w hw) c hc)

theorem ofCorpus_eq (c : Corpus) (ws : Option (List String)) :
    ofCorpus room c ws = ⟨c.commands.map Entry.ofCommand,
      (ws.getD Stopwords.english).map Text.lower, room⟩ := by
  cases ws with
  | none => rw [Option.getD_none, english_lowered]; rfl
  | some ws => rfl

/-- A search for a legible query gives the commands of the first tier that finds any, in the order
of the corpus and with repetitions. After entries are added the earlier of the two deciding tiers
decides, and its matches among the old entries come before those among the new ones. -/
theorem search_legible (room : Nat) (q : String) (hq : Legible room q) :
    (∀ (c : Corpus) (ws : Option (List String)),
      let ignored := (ws.getD Stopwords.english).map Text.lower
      let found := fun t =>
        c.commands.filter fun cmd => (Entry.ofCommand cmd).Answers room ignored q t
      ∃ result, (ofCorpus room c ws).search q = .ok result ∧ (result = [] ↔ ∀ t, found t = []) ∧
        ∀ before t after, Tier.all = before ++ t :: after → (∀ u ∈ before, found u = []) →
          found t ≠ [] → result = found t) ∧
    ∀ (i : Index) (es : List Entry), i.room = room →
      let decisive := (i.extend es).deciding? q
      decisive = Tier.earlier (i.deciding? q) ((i.only es).deciding? q) ∧
      (i.extend es).search q =
        .ok ((i.hitsIn q decisive ++ (i.only es).hitsIn q decisive).map Entry.command) := by
  constructor
  · intro c ws ignored found
    have hfound : ∀ t, (ofCorpus room c ws).hits q t = (found t).map Entry.ofCommand := by
      intro t
      rw [ofCorpus_eq, hits, List.filter_map]
      rfl
    have hnil : ∀ t, (ofCorpus room c ws).hits q t = [] ↔ found t = [] := by
      intro t
      rw [hfound, List.map_eq_nil_iff]
    refine ⟨_, search_eq hq, ?_, ?_⟩
    · rw [List.map_eq_nil_iff, hitsIn_deciding?_eq_nil]
      exact forall_congr' hnil
    · intro before t after hall hbefore ht
      have hdecides := deciding?_eq_some hall (fun u hu => (hnil u).mpr (hbefore u hu))
        (mt (hnil t).mp ht)
      rw [hdecides, hitsIn, hfound, List.map_map]
      exact List.map_id _
  · rintro i es rfl decisive
    have hgrown : Legible (i.extend es).room q := hq
    exact ⟨deciding?_extend, by rw [search_eq hgrown, hitsIn_extend]⟩

/-- A new command that contains the query hides the one that matches it as a pattern. -/
theorem search_legible_hiding : Legible 900 "p.ng" ∧
    (ofCorpus 900 .empty none).search "p.ng" = .ok [] ∧
    ((Index.mk [.ofCommand "hubot ping"] [] 900).extend [.ofCommand "hubot p.ng"]).search "p.ng" =
      .ok ["hubot p.ng"] := by
  have hq : Legible 900 "p.ng" := by decide +kernel
  obtain ⟨hbuilt, hgrown⟩ := search_legible 900 "p.ng" hq
  obtain ⟨result, hresult, hnil, -⟩ := hbuilt .empty none
  refine ⟨hq, ?_, ?_⟩
  · rw [hresult, hnil.mpr fun _ => rfl]
  · obtain ⟨-, hsearch⟩ := hgrown ⟨[.ofCommand "hubot ping"], [], 900⟩ [.ofCommand "hubot p.ng"] rfl
    rw [hsearch]
    decide +kernel

end ScriptHelp.Index
