import Mathlib.Data.List.Induction
import ScriptHelp.CommandLine.Basic
import ScriptHelp.Proofs.Results

namespace ScriptHelp

theorem Transport.named?_eq_some_iff {s : String} {t : Transport} :
    named? s = some t ↔ t.name = s := by
  constructor
  · intro h
    simpa using List.find?_some h
  · rintro rfl
    cases t <;> decide

theorem Transport.name_injective {t u : Transport} (h : t.name = u.name) : t = u := by
  have ht : named? u.name = some t := named?_eq_some_iff.mpr h
  rw [named?_eq_some_iff.mpr rfl] at ht
  exact (Option.some.inj ht).symm

namespace Token

variable {s v : String} {t : Token} {ts : List Token} {args : List String}

theorem read_eq (s : String) : read s =
    if s.toList.head? ≠ some '-' then .ok (.value s)
    else match spelledOut? s with
    | some t => .ok t
    | none => if s = "-" then .ok (.value s) else
      (partly? s).map fun
        | some t => t
        | none =>
          if isNegativeNumber s || s.toList.contains ' ' then .value s else .unknown s := by
  unfold read
  split
  · rfl
  · cases spelledOut? s with
    | some t => rfl
    | none =>
      simp only
      split
      · rfl
      · cases partly? s with
        | error e => rfl
        | ok t => cases t <;> rfl

theorem spelledOut?_ne_value : spelledOut? s ≠ some (.value v) := by
  unfold spelledOut?
  split
  · simp
  · split <;> simp

theorem abbreviated?_ne_value : abbreviated? s ≠ .ok (some (.value v)) := by
  simp only [abbreviated?]
  split <;> simp

theorem clustered?_ne_value : clustered? s ≠ some (.value v) := by
  unfold clustered?
  split <;> simp

theorem partly?_ne_value : partly? s ≠ .ok (some (.value v)) := by
  unfold partly?
  split
  · exact abbreviated?_ne_value
  · exact fun h => clustered?_ne_value (Except.ok.inj h)

theorem eq_of_read_value (h : read s = .ok (.value v)) : v = s := by
  rw [read_eq] at h
  split at h
  · cases h
    rfl
  · cases hout : spelledOut? s with
    | some t =>
      rw [hout] at h
      obtain rfl := Except.ok.inj h
      exact absurd hout spelledOut?_ne_value
    | none =>
      simp only [hout] at h
      split at h
      · cases h
        rfl
      · cases hpart : partly? s with
        | error e =>
          rw [hpart] at h
          cases h
        | ok t? =>
          rw [hpart] at h
          cases t? with
          | some t =>
            obtain rfl := Except.ok.inj h
            exact absurd hpart partly?_ne_value
          | none =>
            simp only [Except.map] at h
            split at h
            · cases h
              rfl
            · cases h

theorem ne_dashes_of_read (h : read s = .ok t) : s ≠ "--" := by
  rintro rfl
  have herror : (read "--").isOk = false := by decide
  rw [h] at herror
  cases herror

theorem readAll_cons (h : read s = .ok t) (args : List String) :
    readAll (s :: args) = (readAll args).map (t :: ·) := by
  rw [readAll, h]
  · cases readAll args <;> rfl
  · exact ne_dashes_of_read h

theorem eq_nil_of_readAll (h : readAll args = .ok []) : args = [] := by
  unfold readAll at h
  split at h
  · rfl
  · cases h
  · obtain ⟨t, -, hrest⟩ := exists_of_bind_eq_ok h
    obtain ⟨ts, -, hcons⟩ := exists_of_bind_eq_ok hrest
    cases hcons

theorem readAll_eq_cons (h : readAll args = .ok (t :: ts)) :
    t = .separator ∨ ∃ s rest, args = s :: rest ∧ read s = .ok t ∧ readAll rest = .ok ts := by
  unfold readAll at h
  split at h
  · cases h
  · obtain ⟨rfl, -⟩ := List.cons.inj (Except.ok.inj h)
    exact .inl rfl
  · rename_i s rest _
    obtain ⟨t', hs, hbind⟩ := exists_of_bind_eq_ok h
    obtain ⟨ts', hrest, hcons⟩ := exists_of_bind_eq_ok hbind
    obtain ⟨rfl, rfl⟩ := List.cons.inj (Except.ok.inj hcons)
    exact .inr ⟨s, rest, rfl, hs, hrest⟩

end Token

namespace CommandLine

variable {c c' : CommandLine} {f : Flag} {long : Bool} {v : String} {ts : List Token}
  {args : List String} {s : Stop}

def Fits : Flag → String → Prop
  | .transport, v => ∃ t : Transport, t.name = v
  | .port, v => ∃ n, Number.readInteger v = .ok n
  | .host, _ | .cwd, _ => True
  | .help, _ | .version, _ => False

theorem exists_set_iff (c : CommandLine) : (∃ c', c.set f v = .ok c') ↔ Fits f v := by
  cases f with
  | transport =>
    simp only [set, Fits, ← Transport.named?_eq_some_iff]
    cases Transport.named? v <;> simp
  | port =>
    simp only [set, Fits]
    cases Number.readInteger v <;> simp
  | host | cwd | help | version => simp [set, Fits]

theorem takesValue_of_fits (h : Fits f v) : f.takesValue = true := by
  cases f with
  | help | version => exact h.elim
  | _ => rfl

theorem code_of_set (hf : f.takesValue = true) (h : c.set f v = .error s) : s.code = 2 := by
  cases f with
  | help | version => cases hf
  | transport | port =>
    simp only [set] at h
    split at h <;> cases h
    rfl
  | host | cwd => cases h

theorem strays_set (h : c.set f v = .ok c') : c'.strays = c.strays := by
  cases f with
  | transport | port =>
    simp only [set] at h
    split at h <;> cases h
    rfl
  | host | cwd =>
    cases h
    rfl
  | help | version => cases h

theorem follow_attached (hf : f.takesValue = true) (c : CommandLine) :
    c.follow (.option f long (some v) :: ts) = (c.set f v).bind fun c => c.follow ts := by
  rw [follow, if_pos hf]
  rfl

theorem follow_apart (hf : f.takesValue = true) (c : CommandLine) :
    c.follow (.option f long none :: .value v :: ts) = (c.set f v).bind fun c => c.follow ts := by
  rw [follow, if_pos hf]
  rfl

theorem set_of_not_takesValue (hf : f.takesValue = false) (c : CommandLine) (v : String) :
    ∃ s, c.set f v = .error s ∧ s.code = 0 := by
  cases f with
  | help => exact ⟨.help, rfl, rfl⟩
  | version => exact ⟨.version, rfl, rfl⟩
  | _ => cases hf

theorem set_bind_ne_ok (hf : ¬f.takesValue = true)
    (k : CommandLine → Except Stop CommandLine) : (c.set f v >>= k) ≠ .ok c' := by
  obtain ⟨s, hset, -⟩ := set_of_not_takesValue (Bool.eq_false_iff.mpr hf) c v
  rw [hset]
  exact nofun

/-- The arguments that give a value to an option: one with the value attached, or two. -/
inductive Gives (f : Flag) (v : String) : List String → Prop
  | attached {s : String} {long : Bool} (h : Token.read s = .ok (.option f long (some v))) :
    Gives f v [s]
  | apart {s : String} {long : Bool} (h : Token.read s = .ok (.option f long none))
    (hv : Token.read v = .ok (.value v)) : Gives f v [s, v]

structure Setting where
  arguments : List String
  option : Flag
  value : String
  gives : Gives option value arguments
  fits : Fits option value

def setAll (c : CommandLine) (ss : List Setting) : Except Stop CommandLine :=
  ss.foldlM (fun c s => c.set s.option s.value) c

theorem setAll_cons {x : Setting} (h : c.set x.option x.value = .ok c') (ss : List Setting) :
    c.setAll (x :: ss) = c'.setAll ss := by
  rw [setAll, List.foldlM_cons, h]
  rfl

theorem exists_setAll (c : CommandLine) (ss : List Setting) : ∃ c', c.setAll ss = .ok c' := by
  induction ss generalizing c with
  | nil => exact ⟨c, rfl⟩
  | cons s ss ih =>
    obtain ⟨c₁, hset⟩ := (exists_set_iff c).mpr s.fits
    obtain ⟨c₂, hall⟩ := ih c₁
    exact ⟨c₂, (setAll_cons hset ss).trans hall⟩

/-- Following the tokens of settings applies the settings in order. -/
theorem follow_settings (ss : List Setting) :
    ∃ ts, Token.readAll (ss.flatMap Setting.arguments) = .ok ts ∧
      ∀ c : CommandLine, c.follow ts = c.setAll ss := by
  induction ss with
  | nil => exact ⟨[], rfl, fun c => rfl⟩
  | cons s ss ih =>
    obtain ⟨ts, hread, hfollow⟩ := ih
    obtain ⟨arguments, f, v, hgives, hfits⟩ := s
    have hf : f.takesValue = true := takesValue_of_fits hfits
    rw [List.flatMap_cons]
    simp only [setAll, List.foldlM_cons]
    cases hgives with
    | @attached s long h =>
      refine ⟨.option f long (some v) :: ts, ?_, fun c => ?_⟩
      · rw [List.singleton_append, Token.readAll_cons h, hread]
        rfl
      · rw [follow_attached hf]
        exact bind_congr hfollow
    | @apart s long h hv =>
      refine ⟨.option f long none :: .value v :: ts, ?_, fun c => ?_⟩
      · rw [List.cons_append, List.singleton_append, Token.readAll_cons h, Token.readAll_cons hv,
          hread]
        rfl
      · rw [follow_apart hf]
        exact bind_congr hfollow

theorem strays_follow (h : c.follow ts = .ok c') : c.strays <+: c'.strays := by
  fun_induction follow c ts with
  | case1 c =>
    obtain rfl := Except.ok.inj h
    exact List.prefix_refl _
  | case2 c s ts ih => exact (List.prefix_append _ _).trans (ih h)
  | case3 c s ts ih => exact (List.prefix_append _ _).trans (ih h)
  | case4 c ts ih => exact (List.prefix_append _ _).trans (ih h)
  | case5 c f long hf v ts ih =>
    obtain ⟨c₁, hset, hrest⟩ := exists_of_bind_eq_ok h
    exact strays_set hset ▸ ih c₁ hrest
  | case6 c f long hf v ts ih =>
    obtain ⟨c₁, hset, hrest⟩ := exists_of_bind_eq_ok h
    exact strays_set hset ▸ ih c₁ hrest
  | case7 | case8 => cases h
  | case9 c f long attached ts hf hattached ih => exact absurd h (set_bind_ne_ok hf _)

theorem follow_stray_ne (h : (c.stray v).follow ts = .ok c') : c'.strays ≠ [] := by
  intro hnone
  have hprefix := strays_follow h
  rw [hnone, List.prefix_nil] at hprefix
  exact List.append_ne_nil_of_right_ne_nil _ (List.cons_ne_nil _ _) hprefix

/-- Tokens followed without strays are a row of settings. -/
theorem exists_settings (hread : Token.readAll args = .ok ts) (h : c.follow ts = .ok c')
    (hstrays : c'.strays = []) :
    ∃ ss : List Setting, args = ss.flatMap Setting.arguments ∧ c.setAll ss = .ok c' := by
  fun_induction follow c ts generalizing args with
  | case1 c => exact ⟨[], Token.eq_nil_of_readAll hread, h⟩
  | case2 c s ts ih => exact absurd hstrays (follow_stray_ne h)
  | case3 c s ts ih => exact absurd hstrays (follow_stray_ne h)
  | case4 c ts ih => exact absurd hstrays (follow_stray_ne h)
  | case5 c f long hf v ts ih =>
    obtain ⟨c₁, hset, hrest⟩ := exists_of_bind_eq_ok h
    obtain hdashes | ⟨s, args, rfl, hs, hmore⟩ := Token.readAll_eq_cons hread
    · cases hdashes
    · obtain ⟨ss, rfl, hall⟩ := ih c₁ hmore hrest
      have hfits : Fits f v := (exists_set_iff c).mp ⟨c₁, hset⟩
      exact ⟨⟨[s], f, v, .attached hs, hfits⟩ :: ss, rfl, (setAll_cons hset ss).trans hall⟩
  | case6 c f long hf v ts ih =>
    obtain ⟨c₁, hset, hrest⟩ := exists_of_bind_eq_ok h
    obtain hdashes | ⟨s, args, rfl, hs, hnext⟩ := Token.readAll_eq_cons hread
    · cases hdashes
    · obtain hdashes | ⟨v', args, rfl, hv, hmore⟩ := Token.readAll_eq_cons hnext
      · cases hdashes
      · obtain rfl := Token.eq_of_read_value hv
        obtain ⟨ss, rfl, hall⟩ := ih c₁ hmore hrest
        have hfits : Fits f v := (exists_set_iff c).mp ⟨c₁, hset⟩
        exact ⟨⟨[s, v], f, v, .apart hs hv, hfits⟩ :: ss, rfl, (setAll_cons hset ss).trans hall⟩
  | case7 | case8 => cases h
  | case9 c f long attached ts hf hattached ih => exact absurd h (set_bind_ne_ok hf _)

section LastGiven

variable {ss : List Setting} {x : Setting}

def lastGiven? (ss : List Setting) (f : Flag) : Option String :=
  ((ss.filter (·.option = f)).getLast?).map Setting.value

theorem lastGiven?_concat (ss : List Setting) (x : Setting) (f : Flag) :
    lastGiven? (ss ++ [x]) f = if x.option = f then some x.value else lastGiven? ss f := by
  rw [lastGiven?, List.filter_append]
  by_cases h : x.option = f
  · rw [if_pos h, List.filter_cons_of_pos (by simpa using h), List.filter_nil,
      List.getLast?_concat, Option.map_some]
  · rw [if_neg h, List.filter_cons_of_neg (by simpa using h), List.filter_nil, List.append_nil,
      lastGiven?]

/-- Every option has the last value given to it, or its default. -/
structure Holds (c : CommandLine) (ss : List Setting) : Prop where
  transport : c.transport.name = (lastGiven? ss .transport).getD "stdio"
  host : c.host = (lastGiven? ss .host).getD "127.0.0.1"
  port : Number.readInteger ((lastGiven? ss .port).getD "8000") = .ok c.port
  cwd : c.cwd = lastGiven? ss .cwd
  strays : c.strays = []

theorem holds_nil : Holds {} [] := ⟨rfl, rfl, by decide, rfl, rfl⟩

/-- Applying one more setting. -/
theorem Holds.set (h : Holds c ss) (hset : c.set x.option x.value = .ok c') :
    Holds c' (ss ++ [x]) := by
  obtain ⟨arguments, f, v, hgives, hfits⟩ := x
  cases f with
  | transport =>
    obtain ⟨t, ht⟩ : ∃ t : Transport, t.name = v := hfits
    simp only [CommandLine.set, Transport.named?_eq_some_iff.mpr ht] at hset
    obtain rfl := Except.ok.inj hset
    constructor <;> simp [lastGiven?_concat, ht, h.host, h.port, h.cwd, h.strays]
  | host =>
    obtain rfl := Except.ok.inj hset
    constructor <;> simp [lastGiven?_concat, h.transport, h.port, h.cwd, h.strays]
  | port =>
    obtain ⟨n, hn⟩ : ∃ n, Number.readInteger v = .ok n := hfits
    simp only [CommandLine.set, hn] at hset
    obtain rfl := Except.ok.inj hset
    constructor <;> simp [lastGiven?_concat, hn, h.transport, h.host, h.cwd, h.strays]
  | cwd =>
    obtain rfl := Except.ok.inj hset
    constructor <;> simp [lastGiven?_concat, h.transport, h.host, h.port, h.strays]
  | help | version => exact hfits.elim

theorem holds_of_setAll (h : setAll {} ss = .ok c) : Holds c ss := by
  induction ss using List.reverseRecOn generalizing c with
  | nil =>
    obtain rfl := Except.ok.inj h
    exact holds_nil
  | append_singleton ss x ih =>
    rw [setAll, List.foldlM_append] at h
    obtain ⟨c₁, hall, hlast⟩ := exists_of_bind_eq_ok h
    rw [List.foldlM_cons] at hlast
    obtain ⟨c₂, hset, hnil⟩ := exists_of_bind_eq_ok hlast
    obtain rfl := Except.ok.inj hnil
    exact (ih hall).set hset

theorem Holds.unique (h : Holds c ss) (h' : Holds c' ss) : c = c' := by
  obtain ⟨transport, host, port, cwd, strays⟩ := c
  obtain ⟨transport', host', port', cwd', strays'⟩ := c'
  have htransport : transport = transport' :=
    Transport.name_injective (h.transport.trans h'.transport.symm)
  have hhost : host = host' := h.host.trans h'.host.symm
  have hport : port = port' := Except.ok.inj (h.port.symm.trans h'.port)
  have hcwd : cwd = cwd' := h.cwd.trans h'.cwd.symm
  have hstrays : strays = strays' := h.strays.trans h'.strays.symm
  rw [htransport, hhost, hport, hcwd, hstrays]

theorem setAll_eq_ok_iff : setAll {} ss = .ok c ↔ Holds c ss := by
  refine ⟨holds_of_setAll, fun h => ?_⟩
  obtain ⟨c', hall⟩ := exists_setAll {} ss
  rw [hall, h.unique (holds_of_setAll hall)]

end LastGiven

theorem read_of_follow (hread : Token.readAll args = .ok ts) : read args =
    (follow {} ts).bind fun c =>
      if c.strays.isEmpty then .ok c else .error (.usage (.unrecognized c.strays)) := by
  rw [read, hread]
  rfl

/-- A command line is read iff it is a row of settings. -/
theorem read_eq_ok_iff : read args = .ok c ↔
    ∃ ss : List Setting, args = ss.flatMap Setting.arguments ∧ Holds c ss := by
  constructor
  · intro h
    cases hread : Token.readAll args with
    | error e =>
      rw [read, hread] at h
      cases h
    | ok ts =>
      rw [read_of_follow hread] at h
      obtain ⟨c₁, hfollow, hnone⟩ := exists_of_bind_eq_ok h
      split at hnone
      · rename_i hstrays
        obtain rfl := Except.ok.inj hnone
        obtain ⟨ss, hargs, hall⟩ :=
          exists_settings hread hfollow (List.isEmpty_iff.mp hstrays)
        exact ⟨ss, hargs, holds_of_setAll hall⟩
      · cases hnone
  · rintro ⟨ss, rfl, hholds⟩
    obtain ⟨ts, hread, hfollow⟩ := follow_settings ss
    have hall : follow {} ts = .ok c := (hfollow {}).trans (setAll_eq_ok_iff.mpr hholds)
    rw [read_of_follow hread, hall, Except.bind, hholds.strays]
    rfl

/-- Every row of settings is read. -/
theorem exists_read_settings (ss : List Setting) :
    ∃ c, read (ss.flatMap Setting.arguments) = .ok c ∧ Holds c ss := by
  obtain ⟨c, hall⟩ := exists_setAll {} ss
  have hholds : Holds c ss := holds_of_setAll hall
  exact ⟨c, read_eq_ok_iff.mpr ⟨ss, rfl, hholds⟩, hholds⟩

/-- A permutation that keeps the order of the settings of each option. -/
def Reordered (ss ss' : List Setting) : Prop :=
  ∀ f, ss'.filter (·.option = f) = ss.filter (·.option = f)

theorem lastGiven?_reordered {ss ss' : List Setting} (h : Reordered ss ss') (f : Flag) :
    lastGiven? ss' f = lastGiven? ss f := by
  rw [lastGiven?, h f, lastGiven?]

theorem Holds.reordered {ss ss' : List Setting} (h : Holds c ss) (horder : Reordered ss ss') :
    Holds c ss' := by
  constructor <;>
    simp only [lastGiven?_reordered horder, h.transport, h.host, h.port, h.cwd, h.strays]

/-- Settings of distinct options may be permuted freely. -/
theorem reordered_of_perm {ss ss' : List Setting} (hdistinct : (ss.map Setting.option).Nodup)
    (hperm : ss'.Perm ss) : Reordered ss ss' := by
  intro f
  have hfilter : (ss'.filter (·.option = f)).Perm (ss.filter (·.option = f)) := hperm.filter _
  have hsame : (ss.filter (·.option = f)).map Setting.option =
      List.replicate (ss.filter (·.option = f)).length f := by
    refine List.eq_replicate_iff.mpr ⟨List.length_map _, fun g hg => ?_⟩
    obtain ⟨x, hx, rfl⟩ := List.mem_map.mp hg
    exact of_decide_eq_true (List.mem_filter.mp hx).2
  have hnodup : ((ss.filter (·.option = f)).map Setting.option).Nodup :=
    hdistinct.sublist (List.filter_sublist.map _)
  rw [hsame, List.nodup_replicate] at hnodup
  -- an option that has one setting at most leaves no choice of order
  cases hone : ss.filter (·.option = f) with
  | nil =>
    rw [hone] at hfilter
    exact hfilter.eq_nil
  | cons x xs =>
    rw [hone, List.length_cons] at hnodup
    obtain rfl : xs = [] := List.eq_nil_of_length_eq_zero (by omega)
    rw [hone] at hfilter
    exact List.perm_singleton.mp hfilter

theorem read_reordered {ss ss' : List Setting} (horder : Reordered ss ss') :
    read (ss'.flatMap Setting.arguments) = read (ss.flatMap Setting.arguments) := by
  obtain ⟨c, hread, hholds⟩ := exists_read_settings ss
  rw [hread]
  exact read_eq_ok_iff.mpr ⟨ss', rfl, hholds.reordered horder⟩

theorem follow_append (h : c.follow ts = .ok c') (more : List Token) :
    c.follow (ts ++ more) = c'.follow more := by
  fun_induction follow c ts with
  | case1 c => rw [Except.ok.inj h, List.nil_append]
  | case2 c s ts ih => exact ih h
  | case3 c s ts ih => exact ih h
  | case4 c ts ih => exact ih h
  | case5 c f long hf v ts ih =>
    obtain ⟨c₁, hset, hrest⟩ := exists_of_bind_eq_ok h
    rw [List.cons_append, follow_attached hf, hset]
    exact ih c₁ hrest
  | case6 c f long hf v ts ih =>
    obtain ⟨c₁, hset, hrest⟩ := exists_of_bind_eq_ok h
    rw [List.cons_append, List.cons_append, follow_apart hf, hset]
    exact ih c₁ hrest
  | case7 | case8 => cases h
  | case9 c f long attached ts hf hattached ih => exact absurd h (set_bind_ne_ok hf _)

/-- Help or the version is requested, and what comes before is in order. -/
def AsksText (c : CommandLine) (ts : List Token) : Prop :=
  ∃ before f long attached after c', ts = before ++ .option f long attached :: after ∧
    c.follow before = .ok c' ∧ f.takesValue = false ∧ attachedError? f long attached = none

theorem exists_stop_of_asksText (h : c.AsksText ts) :
    ∃ s, c.follow ts = .error s ∧ s.code = 0 := by
  obtain ⟨before, f, long, attached, after, c', rfl, hbefore, hf, hattached⟩ := h
  obtain ⟨s, hset, hcode⟩ := set_of_not_takesValue hf c' ""
  refine ⟨s, ?_, hcode⟩
  rw [follow_append hbefore, follow.eq_def]
  simp only [hf, hattached, hset, Bool.false_eq_true, if_false]
  rfl

theorem AsksText.append (h : c'.AsksText ts) (front : List Token)
    (hfront : ∀ more, c.follow (front ++ more) = c'.follow more) : c.AsksText (front ++ ts) := by
  obtain ⟨before, f, long, attached, after, c'', rfl, hbefore, hf, hattached⟩ := h
  exact ⟨front ++ before, f, long, attached, after, c'', (List.append_assoc ..).symm,
    (hfront before).trans hbefore, hf, hattached⟩

/-- An error that is no usage error is a request for a text. -/
theorem asksText_of_follow (h : c.follow ts = .error s) (hs : s.code ≠ 2) : c.AsksText ts := by
  fun_induction follow c ts with
  | case1 => cases h
  | case2 c v ts ih => exact (ih h).append [.value v] fun _ => rfl
  | case3 c v ts ih => exact (ih h).append [.unknown v] fun _ => rfl
  | case4 c ts ih => exact (ih h).append [.separator] fun _ => rfl
  | case5 c f long hf v ts ih =>
    obtain hset | ⟨c₁, hset, hrest⟩ := of_bind_eq_error h
    · exact absurd (code_of_set hf hset) hs
    · refine (ih c₁ hrest).append [.option f long (some v)] fun more => ?_
      rw [List.singleton_append, follow_attached hf, hset]
      rfl
  | case6 c f long hf v ts ih =>
    obtain hset | ⟨c₁, hset, hrest⟩ := of_bind_eq_error h
    · exact absurd (code_of_set hf hset) hs
    · refine (ih c₁ hrest).append [.option f long none, .value v] fun more => ?_
      rw [List.cons_append, List.singleton_append, follow_apart hf, hset]
      rfl
  | case7 | case8 =>
    obtain rfl := Except.error.inj h
    exact absurd rfl hs
  | case9 c f long attached ts hf hattached ih =>
    exact ⟨[], f, long, attached, ts, c, rfl, rfl, by simpa using hf, hattached⟩

def Asks (args : List String) : Prop := ∃ ts, Token.readAll args = .ok ts ∧ AsksText {} ts

/-- A command line that is not read requests a text or has a usage error. -/
theorem code_of_read (h : read args = .error s) :
    s.code = 0 ∧ Asks args ∨ s.code = 2 ∧ ¬Asks args := by
  cases hread : Token.readAll args with
  | error e =>
    rw [read, hread] at h
    obtain rfl := Except.error.inj h
    refine .inr ⟨rfl, ?_⟩
    rintro ⟨ts, hts, -⟩
    rw [hread] at hts
    cases hts
  | ok ts =>
    have hasks : Asks args → ∃ s', follow {} ts = .error s' ∧ s'.code = 0 := by
      rintro ⟨ts', hts, htext⟩
      obtain rfl := Except.ok.inj (hread.symm.trans hts)
      exact exists_stop_of_asksText htext
    rw [read_of_follow hread] at h
    obtain hfollow | ⟨c, hfollow, hstrays⟩ := of_bind_eq_error h
    · by_cases hs : s.code = 2
      · refine .inr ⟨hs, fun ha => ?_⟩
        obtain ⟨s', hstop, hcode⟩ := hasks ha
        obtain rfl := Except.error.inj (hfollow.symm.trans hstop)
        rw [hs] at hcode
        cases hcode
      · have ha : Asks args := ⟨ts, hread, asksText_of_follow hfollow hs⟩
        obtain ⟨s', hstop, hcode⟩ := hasks ha
        obtain rfl := Except.error.inj (hfollow.symm.trans hstop)
        exact .inl ⟨hcode, ha⟩
    · split at hstrays
      · cases hstrays
      · obtain rfl := Except.error.inj hstrays
        refine .inr ⟨rfl, fun ha => ?_⟩
        obtain ⟨s', hstop, -⟩ := hasks ha
        rw [hfollow] at hstop
        cases hstop

end CommandLine

end ScriptHelp
