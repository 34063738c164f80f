import ScriptHelp.Proofs.CollapsedTexts
import ScriptHelp.Proofs.SessionHistory

namespace ScriptHelp

namespace Checked

variable {α β : Type} {x : Checked α} {y : Checked β} {p : Place}

theorem inside_eq_ok_iff {a : α} : inside p x = .ok a ↔ x = .ok a := by
  cases x <;> simp [inside]

theorem both_eq_ok {a : α} {b : β} (h : both x y = .ok (a, b)) : x = .ok a ∧ y = .ok b := by
  unfold both at h
  split at h <;> simp_all

theorem mem_of_both {q : Problem} {ps : List Problem} (hx : x = .error ps) (hq : q ∈ ps) :
    ∃ qs, both x y = .error qs ∧ q ∈ qs := by
  subst hx
  cases y with
  | ok b => exact ⟨ps, rfl, hq⟩
  | error qs => exact ⟨ps ++ qs, rfl, List.mem_append_left qs hq⟩

end Checked

namespace Call

open Text

variable {args : List (String × Json)} {c : Call} {j : Json} {m t : String}

theorem readMessage_str (m : String) : readMessage (.str m) =
    match strip? m with
    | none => .fault .whitespace
    | some t => if t.length > longestMessage then .fault (.tooLong t.length) else .ok t := by
  have hstring : Checked.string (.str m) = .ok m := rfl
  unfold readMessage
  rw [hstring]
  cases h : strip? m <;> simp only [bind, Except.bind, h]

theorem eq_str_of_readMessage (h : readMessage j = .ok t) : ∃ m, j = .str m := by
  cases j with
  | str m => exact ⟨m, rfl⟩
  | _ => cases h

theorem of_readMessage (h : readMessage (.str m) = .ok t) :
    t = strip m ∧ t ≠ "" ∧ t.length ≤ 2000 := by
  rw [readMessage_str] at h
  cases hm : strip? m with
  | none =>
    rw [hm] at h
    cases h
  | some t' =>
    rw [hm] at h
    change (if t'.length > longestMessage then Checked.fault (.tooLong t'.length) else .ok t') =
      .ok t at h
    by_cases hlong : t'.length > longestMessage
    · rw [if_pos hlong] at h
      cases h
    · rw [if_neg hlong] at h
      obtain rfl : t' = t := Except.ok.inj h
      obtain ⟨hstrip, hne⟩ := strip?_eq_some_iff.mp hm
      have hlength : t'.length ≤ longestMessage := Nat.le_of_not_lt hlong
      exact ⟨hstrip, hne, hlength⟩

/-- The message of a call that was read is neither whitespace only nor too long. -/
theorem of_read_catchAll (h : read .catchAll args = .ok c) :
    ∃ m, args.lookup "message" = some (.str m) ∧ c = .catchAll (strip m) ∧ strip m ≠ "" ∧
      (strip m).length ≤ 2000 := by
  obtain ⟨⟨c', u⟩, hboth, rfl⟩ := map_eq_ok h
  obtain ⟨hknown, -⟩ := Checked.both_eq_ok hboth
  obtain ⟨t, hargument, rfl⟩ := map_eq_ok hknown
  rw [messageArgument, Checked.inside_eq_ok_iff] at hargument
  cases hlookup : args.lookup "message" with
  | none =>
    rw [hlookup] at hargument
    cases hargument
  | some j =>
    rw [hlookup] at hargument
    change readMessage j = .ok t at hargument
    obtain ⟨m, rfl⟩ := eq_str_of_readMessage hargument
    obtain ⟨rfl, hne, hlength⟩ := of_readMessage hargument
    exact ⟨m, rfl, rfl, hne, hlength⟩

theorem read_catchAll_of_whitespace (hm : args.lookup "message" = some (.str m))
    (hspace : ∀ c ∈ m.toList, isWhitespace c = true) :
    ∃ ps, read .catchAll args = .error ps ∧ ⟨[.field "message"], .whitespace⟩ ∈ ps := by
  have hread : readMessage (.str m) = .fault .whitespace := by
    rw [readMessage_str, strip?_of_whitespace hspace]
  have hargument : messageArgument args = .error [⟨[.field "message"], .whitespace⟩] := by
    unfold messageArgument
    rw [hm]
    change Checked.inside (.field "message") (readMessage (.str m)) = _
    rw [hread]
    rfl
  have hknown : knownArguments args .catchAll = .error [⟨[.field "message"], .whitespace⟩] := by
    rw [knownArguments, hargument]
    rfl
  -- other arguments may be wrong too, so this problem is one among several
  obtain ⟨ps, hboth, hmem⟩ := Checked.mem_of_both (y := noOtherArguments .catchAll args) hknown
    List.mem_cons_self
  refine ⟨ps, ?_, hmem⟩
  rw [read, hboth]
  rfl

theorem data_catchAll (x : Snapshot) (m : String) : (catchAll (strip m)).data x =
    (x.responder.catchAll (collapse m)).map (HelpData.ofCatchAll x) := by
  have hheard : normalize false (some (strip m)) = collapse m := by
    rw [normalize_false, collapse_strip]
  rw [data, hheard]
  cases x.responder.catchAll (collapse m) <;> rfl

structure Hears (c : Call) (m heard : String) : Prop where
  told : ∀ x : Snapshot, c.data x = (x.responder.catchAll heard).map (HelpData.ofCatchAll x)
  ne_empty : heard ≠ ""
  length_le : heard.length ≤ 2000
  singleSpaced : SingleSpaced heard.toList
  words_eq : words heard = words m

theorem hears_collapse (hne : strip m ≠ "") (hlength : (strip m).length ≤ 2000) :
    (catchAll (strip m)).Hears m (collapse m) where
  told x := data_catchAll x m
  ne_empty := collapse_ne_empty hne
  length_le := by
    have hle : (collapse (strip m)).length ≤ (strip m).length := length_collapse_le (strip m)
    rw [collapse_strip] at hle
    exact Nat.le_trans hle hlength
  singleSpaced := singleSpaced_collapse m
  words_eq := words_collapse m

theorem answer_congr {m' : String} (h : words m = words m') (result : Except String Snapshot) :
    (catchAll (strip m)).answer result = (catchAll (strip m')).answer result := by
  cases result with
  | error reason => rfl
  | ok x =>
    have hdata : (catchAll (strip m)).data x = (catchAll (strip m')).data x := by
      rw [data_catchAll, data_catchAll, collapse_eq_of_words_eq h]
    simp only [answer, tool, hdata]

/-- The robot hears the words of an accepted message joined by single spaces, so messages of the
same words get the same answer, and normalizing is idempotent. A message of whitespace is refused
without a change to the session; `door` is what the caller found on arrival. -/
theorem hears_words :
    (∀ args c, read .catchAll args = .ok c →
      ∃ m, args.lookup "message" = some (.str m) ∧ c.Hears m (collapse m)) ∧
    (∀ args args' c c' m m', read .catchAll args = .ok c → read .catchAll args' = .ok c' →
      args.lookup "message" = some (.str m) → args'.lookup "message" = some (.str m') →
      words m = words m' → ∀ result, c.answer result = c'.answer result) ∧
    (∀ lowercase typed,
      normalize lowercase (some (normalize lowercase typed)) = normalize lowercase typed) ∧
    ∀ args m, args.lookup "message" = some (.str m) → (∀ c ∈ m.toList, isWhitespace c = true) →
      ∀ (s : Session) (door : Option (Numbered Snapshot)), ∃ ps,
        s.answer door ⟨.catchAll, args⟩ = (.error (.arguments ps), s) ∧
          ⟨[.field "message"], .whitespace⟩ ∈ ps := by
  refine ⟨?_, ?_, normalize_normalize, ?_⟩
  · intro args c hread
    obtain ⟨m, hm, rfl, hne, hlength⟩ := of_read_catchAll hread
    exact ⟨m, hm, hears_collapse hne hlength⟩
  · intro args args' c c' m m' hread hread' hm hm' hwords result
    obtain ⟨n, hn, rfl, -⟩ := of_read_catchAll hread
    obtain ⟨n', hn', rfl, -⟩ := of_read_catchAll hread'
    obtain rfl : n = m := by simpa [hn] using hm
    obtain rfl : n' = m' := by simpa [hn'] using hm'
    exact answer_congr hwords result
  · intro args m hm hspace s door
    obtain ⟨ps, hread, hmem⟩ := read_catchAll_of_whitespace hm hspace
    refine ⟨ps, ?_, hmem⟩
    unfold Session.answer
    rw [hread]

/-- Four kinds of whitespace count as one space each, and whitespace alone is refused. -/
theorem hears_words_hal :
    let m := "hal\t\u2003open \u00a0door\n"
    let c := catchAll "hal\t\u2003open \u00a0door"
    let x := Snapshot.load Session.emptyHost []
    let s := Session.opened Session.emptyHost []
    read .catchAll [("message", .str m)] = .ok c ∧ c.Hears m "hal open door" ∧
      c.answer (.ok x) = (catchAll "hal open door").answer (.ok x) ∧
      ∃ ps, s.answer none ⟨.catchAll, [("message", .str "\u2003")]⟩ =
        (.error (.arguments ps), s) := by
  intro m c x s
  have hread : read .catchAll [("message", .str m)] = .ok c := by decide +kernel
  have hread' : read .catchAll [("message", .str "hal open door")] =
      .ok (.catchAll "hal open door") := by decide +kernel
  have hwords : words m = words "hal open door" := by decide +kernel
  have hheard : collapse m = "hal open door" := by decide +kernel
  obtain ⟨hhears, hsame, -, hrefused⟩ := hears_words
  obtain ⟨n, hn, hc⟩ := hhears _ c hread
  obtain rfl : m = n := by simpa using hn
  have hspace : ∀ c ∈ "\u2003".toList, isWhitespace c = true :=
    List.forall_mem_singleton.mpr (by decide)
  obtain ⟨ps, hps, -⟩ := hrefused [("message", .str "\u2003")] "\u2003" rfl hspace s none
  refine ⟨hread, hheard ▸ hc, ?_, ps, hps⟩
  exact hsame _ _ c _ m "hal open door" hread hread' rfl rfl hwords (.ok x)

end Call

end ScriptHelp
