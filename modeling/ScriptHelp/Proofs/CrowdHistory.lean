import Mathlib.Data.List.Infix
import ScriptHelp.Proofs.CrowdSafety

namespace ScriptHelp

namespace Crowd

variable {α : Type}

def after (outcome : Nat → Except String α) (ms : List Move) : Crowd α :=
  run outcome (ofService {}) ms

/-- Caller `i` started load `n` in one of the moves. -/
def Started (outcome : Nat → Except String α) (ms : List Move) (i n : Nat) : Prop :=
  ∃ before, before ++ [.advance i] <+: ms ∧ (after outcome before).service.loads = n ∧
    (after outcome (before ++ [.advance i])).Inside i n

def Over (c : Crowd α) (n : Nat) : Prop := n < c.service.loads ∧ ∀ i, ¬ c.Inside i n

variable {outcome : Nat → Except String α} {ms before later : List Move} {m : Move}
  {c : Crowd α} {i j n : Nat} {v w : Wish} {x : Numbered α} {r : Except String (Numbered α)}

theorem after_append : after outcome (ms ++ later) = run outcome (after outcome ms) later :=
  List.foldl_append

theorem after_concat : after outcome (ms ++ [m]) = (after outcome ms).move outcome m :=
  after_append

theorem inv_after (h : Move.reset ∉ ms) : Inv outcome (after outcome ms) := by
  induction ms using List.reverseRecOn with
  | nil => exact inv_start
  | append_singleton ms m ih =>
    rw [List.mem_append, List.mem_singleton, not_or] at h
    rw [after_concat]
    exact (ih h.1).move (Ne.symm h.2)

theorem inv_before (h : Move.reset ∉ ms) (hp : before <+: ms) :
    Inv outcome (after outcome before) := inv_after fun hb => h (hp.subset hb)

theorem Inv.over_iff (h : Inv outcome c) : c.Over n ↔ n < c.ended := by
  unfold Over ended
  by_cases htaken : c.isTaken 0 = true
  · obtain ⟨i, k, hi⟩ := h.taken htaken
    have hk := (h.running hi).2
    rw [if_pos htaken]
    constructor
    · rintro ⟨hn, hout⟩
      have hne : n ≠ k := fun hnk => hout i (hnk ▸ hi)
      omega
    · intro hn
      refine ⟨by omega, fun j hj => ?_⟩
      have hn' := (h.running hj).2
      omega
  · rw [if_neg htaken]
    have hout : ∀ j, ¬ c.Inside j n := fun j => not_inside_of_free h (Bool.not_eq_true _ ▸ htaken)
    exact and_iff_left hout

theorem loads_le_move : c.service.loads ≤ (c.move outcome m).service.loads := by
  cases m with
  | call w => exact Nat.le_refl _
  | reset => exact Nat.le_refl _
  | advance i =>
    have hstep := advance_cases outcome c i
    change _ ≤ (c.advance outcome i).service.loads
    generalize c.advance outcome i = d at hstep ⊢
    cases hstep with
    | @finish _ _ n _ =>
      unfold finishLoad Service.finish
      cases outcome n <;> exact Nat.le_refl _
    | start _ _ _ => exact Nat.le_succ _
    | _ => exact Nat.le_refl _

theorem loads_le_later (hp : before <+: ms) :
    (after outcome before).service.loads ≤ (after outcome ms).service.loads := by
  obtain ⟨later, rfl⟩ := hp
  induction later using List.reverseRecOn with
  | nil => rw [List.append_nil]
  | append_singleton later m ih =>
    rw [← List.append_assoc, after_concat]
    exact ih.trans loads_le_move

theorem current_le_move (h : Inv outcome c) (hm : m ≠ .reset) (hx : c.service.current = some x) :
    ∃ y, (c.move outcome m).service.current = some y ∧ x.load ≤ y.load := by
  have hsame : ∃ y, c.service.current = some y ∧ x.load ≤ y.load := ⟨x, hx, Nat.le_refl _⟩
  cases m with
  | call w => exact hsame
  | reset => exact absurd rfl hm
  | advance i =>
    have hstep := advance_cases outcome c i
    change ∃ y, (c.advance outcome i).service.current = some y ∧ _
    generalize c.advance outcome i = d at hstep ⊢
    cases hstep with
    | @finish w lock n hi => exact h.newer_finish ⟨w, lock, hi⟩ hx
    | _ => exact hsame

theorem Started.concat (h : Started outcome ms i n) : Started outcome (ms ++ [m]) i n := by
  obtain ⟨before, hp, hn, hi⟩ := h
  exact ⟨before, hp.trans (List.prefix_append ms [m]), hn, hi⟩

theorem started_of_at {lock : Nat} (h : (after outcome ms).At i w (.loading lock n)) :
    Started outcome ms i n := by
  induction ms using List.reverseRecOn with
  | nil => simp [At, after, run, ofService] at h
  | append_singleton ms m ih =>
    have hnow := h
    rw [after_concat] at h
    cases reaches_of_at h with
    | stayed h => exact (ih h).concat
    | entered _ _ _ => exact ⟨ms, List.prefix_rfl, rfl, w, lock, hnow⟩

/-- A caller gets the outcome of its own load, or a result that was current at some time. -/
theorem served_from (h : (after outcome ms).At i w (.served r)) :
    (∃ n, Started outcome ms i n ∧ r = (outcome n).map fun a => ⟨n, a⟩) ∨
      w = .current ∧ ∃ before x, before <+: ms ∧
        (after outcome before).service.current = some x ∧ r = .ok x := by
  induction ms using List.reverseRecOn with
  | nil => simp [At, after, run, ofService] at h
  | append_singleton ms m ih =>
    rw [after_concat] at h
    cases reaches_of_at h with
    | stayed h =>
      obtain ⟨n, hn, hr⟩ | ⟨hw, before, x, hp, hx, hr⟩ := ih h
      · exact .inl ⟨n, hn.concat, hr⟩
      · exact .inr ⟨hw, before, x, hp.trans (List.prefix_append ms _), hx, hr⟩
    | @took x hw hx => exact .inr ⟨hw, ms, x, List.prefix_append ms _, hx, rfl⟩
    | @left lock n hl => exact .inl ⟨n, (started_of_at hl).concat, rfl⟩

theorem length_le_of_started {p q : List Move} (h : Move.reset ∉ ms)
    (hp : p ++ [.advance i] <+: ms) (hi : (after outcome (p ++ [.advance i])).Inside i n)
    (hq : q <+: ms) (hn : (after outcome q).service.loads ≤ n) : q.length ≤ p.length := by
  by_contra hlt
  -- otherwise the start of load `n` lies before `q`
  have hpq : p ++ [.advance i] <+: q :=
    List.prefix_of_prefix_length_le hp hq (by simp only [List.length_append]; simp; omega)
  have hloads := ((inv_before h hp).running hi).2
  have hle : _ ≤ (after outcome q).service.loads := loads_le_later hpq
  omega

theorem Started.unique (h : Move.reset ∉ ms) (hi : Started outcome ms i n)
    (hj : Started outcome ms j n) : i = j := by
  obtain ⟨p, hp, hpn, hi⟩ := hi
  obtain ⟨q, hq, hqn, hj⟩ := hj
  have hqp := length_le_of_started h hp hi ((List.prefix_append q _).trans hq) hqn.le
  have hpq := length_le_of_started h hq hj ((List.prefix_append p _).trans hp) hpn.le
  have hlength : (p ++ [Move.advance i]).length = (q ++ [Move.advance j]).length := by
    simp only [List.length_append, List.length_singleton]
    omega
  have heq := (List.prefix_of_prefix_length_le hp hq hlength.le).eq_of_length hlength
  simpa using (List.append_inj' heq rfl).2

/-- A caller who arrives while there is a result gets that one or a newer one. -/
theorem served_after (h : Move.reset ∉ before ++ .call .current :: later)
    (hx : (after outcome before).service.current = some x) :
    let c := after outcome (before ++ .call .current :: later)
    (∃ y, c.service.current = some y ∧ x.load ≤ y.load) ∧
      ∀ {u}, c.At (after outcome before).callers.length .current u →
        u = .arriving ∨ ∃ y, u = .served (.ok y) ∧ x.load ≤ y.load := by
  induction later using List.reverseRecOn with
  | nil =>
    refine ⟨⟨x, ?_, Nat.le_refl _⟩, fun {u} hu => ?_⟩
    · rw [after_concat]
      exact hx
    · rw [after_concat, at_of_call] at hu
      obtain hu | ⟨-, -, hu⟩ := hu
      · simp [At] at hu
      · exact .inl hu
  | append_singleton later m ih =>
    rw [← List.cons_append, ← List.append_assoc, List.mem_append, not_or] at h
    obtain ⟨⟨y, hy, hxy⟩, hstage⟩ := ih h.1
    have hm : m ≠ .reset := fun hm => h.2 (by rw [hm, List.mem_singleton])
    rw [← List.cons_append, ← List.append_assoc, after_concat]
    refine ⟨?_, fun {u} hu => ?_⟩
    · obtain ⟨z, hz, hyz⟩ := current_le_move (inv_after h.1) hm hy
      exact ⟨z, hz, hxy.trans hyz⟩
    · cases reaches_of_at hu with
      | stayed hu => exact hstage hu
      | arrived _ => exact .inl rfl
      -- the result is still there, so the newcomer does not have to queue
      | queued _ hr => simp [ready?, hy] at hr
      | @took z _ hz =>
        rw [hy, Option.some.injEq] at hz
        exact .inr ⟨z, rfl, hz ▸ hxy⟩
      | entered hw _ _ => simpa using hstage hw
      | left hl => simpa using hstage hl

/-- The safety properties of the crowd after these moves. -/
structure Orderly (outcome : Nat → Except String α) (ms : List Move) : Prop where
  one_load : ∀ {i j m n}, (after outcome ms).Inside i m → (after outcome ms).Inside j n →
    i = j ∧ m = n
  lock_held : (after outcome ms).isTaken (after outcome ms).newestLock = true ↔
    ∃ i n, (after outcome ms).Inside i n
  lock_freed : ∀ {i w lock n}, (after outcome ms).At i w (.loading lock n) →
    let c := after outcome (ms ++ [.advance i])
    c.isTaken c.newestLock = false ∧ c.At i w (.served ((outcome n).map fun a => ⟨n, a⟩))
  proceeds : ∀ {i w lock}, (after outcome ms).At i w (.waiting lock) →
    (after outcome ms).isTaken (after outcome ms).newestLock = false →
    let c := after outcome (ms ++ [.advance i])
    (∃ x, (after outcome ms).ready? w = some x ∧ c.At i w (.served (.ok x))) ∨
      (after outcome ms).ready? w = none ∧ c.Inside i (after outcome ms).service.loads
  latest : ∀ {x}, (after outcome ms).service.current = some x ↔
    (after outcome ms).Over x.load ∧ outcome x.load = .ok x.value ∧
      ∀ n, x.load < n → (after outcome ms).Over n → ∃ e, outcome n = .error e
  failure_keeps : ∀ {i n e}, (after outcome ms).Inside i n → outcome n = .error e →
    (after outcome (ms ++ [.advance i])).service = (after outcome ms).service
  told_result : ∀ {i w x}, (after outcome ms).At i w (.served (.ok x)) →
    (after outcome ms).Over x.load ∧ outcome x.load = .ok x.value
  told_error : ∀ {i w e}, (after outcome ms).At i w (.served (.error e)) →
    ∃ n, Started outcome ms i n ∧ outcome n = .error e
  loads_if_none : ∀ {m i lock n}, ¬ (after outcome ms).Inside i n →
    (after outcome (ms ++ [m])).At i .current (.loading lock n) →
    (after outcome ms).At i .current (.waiting lock) ∧ (after outcome ms).isTaken lock = false ∧
      (after outcome ms).service.current = none
  never_older : ∀ {before later j v x r}, ms = before ++ .call .current :: later →
    (after outcome before).At j v (.served (.ok x)) →
    (after outcome ms).At (after outcome before).callers.length .current (.served r) →
    ∃ y, r = .ok y ∧ x.load ≤ y.load
  own_load : ∀ {i r}, (after outcome ms).At i .fresh (.served r) →
    ∃ n, Started outcome ms i n ∧ r = (outcome n).map fun a => ⟨n, a⟩
  own_alone : ∀ {i j n}, Started outcome ms i n → Started outcome ms j n → i = j

theorem Inv.newestLock (h : Inv outcome c) : c.newestLock = 0 := by
  rw [Crowd.newestLock, h.locks]

theorem Inv.taken_iff (h : Inv outcome c) :
    c.isTaken c.newestLock = true ↔ ∃ i n, c.Inside i n := by
  rw [h.newestLock]
  exact ⟨h.taken, fun ⟨_, _, hi⟩ => (h.running hi).1⟩

theorem Inv.current_iff (h : Inv outcome c) : c.service.current = some x ↔
    c.Over x.load ∧ outcome x.load = .ok x.value ∧
      ∀ n, x.load < n → c.Over n → ∃ e, outcome n = .error e := by
  simp only [h.current, latest_eq_some_iff, h.over_iff]

theorem Inv.freed {lock : Nat} (h : Inv outcome c) (hi : c.At i w (.loading lock n)) :
    (c.advance outcome i).isTaken (c.advance outcome i).newestLock = false ∧
      (c.advance outcome i).At i w (.served ((outcome n).map fun a => ⟨n, a⟩)) := by
  have hzero := h.loading hi
  subst hzero
  rw [(h.advance i).newestLock, advance_loading hi]
  refine ⟨isTaken_of_set h.locks rfl, ?_⟩
  rw [at_of_setStage rfl hi, if_pos rfl]
  exact ⟨rfl, rfl⟩

theorem Inv.goes_on {lock : Nat} (h : Inv outcome c) (hi : c.At i w (.waiting lock))
    (hl : c.isTaken c.newestLock = false) :
    (∃ x, c.ready? w = some x ∧ (c.advance outcome i).At i w (.served (.ok x))) ∨
      c.ready? w = none ∧ (c.advance outcome i).Inside i c.service.loads := by
  rw [h.newestLock, ← h.queued hi] at hl
  rw [advance_waiting hi hl]
  cases hr : c.ready? w with
  | some x =>
    refine .inl ⟨x, rfl, ?_⟩
    change (c.serve i (.ok x)).At i w _
    rw [at_of_setStage rfl hi, if_pos rfl]
    exact ⟨rfl, rfl⟩
  | none =>
    refine .inr ⟨rfl, ?_⟩
    change (c.startLoad i lock).Inside i _
    rw [inside_setStage rfl hi, if_pos rfl]
    exact ⟨lock, rfl⟩

theorem over_of_told (h : Move.reset ∉ ms) (hi : (after outcome ms).At i w (.served (.ok x))) :
    (after outcome ms).Over x.load ∧ outcome x.load = .ok x.value := by
  have hinv : Inv outcome (after outcome ms) := inv_after h
  constructor
  · obtain ⟨y, hy, hxy⟩ := hinv.returned hi
    rw [hinv.over_iff]
    rw [hinv.current] at hy
    exact Nat.lt_of_le_of_lt hxy (latest_eq_some_iff.mp hy).1
  · obtain ⟨n, -, hn⟩ | ⟨-, before, y, hp, hy, hxy⟩ := served_from hi
    · cases ha : outcome n with
      | ok a =>
        rw [ha] at hn
        rw [Except.ok.inj hn]
        exact ha
      | error e => simp [ha, Except.map] at hn
    · rw [← Except.ok.inj hxy] at hy
      exact ((inv_before h hp).current_iff.mp hy).2.1

theorem error_of_told {e : String} (hi : (after outcome ms).At i w (.served (.error e))) :
    ∃ n, Started outcome ms i n ∧ outcome n = .error e := by
  obtain ⟨n, hn, he⟩ | ⟨-, _, _, -, -, he⟩ := served_from hi
  · refine ⟨n, hn, ?_⟩
    cases ha : outcome n with
    | ok a => simp [ha, Except.map] at he
    | error e' =>
      rw [ha] at he
      exact congrArg Except.error (Except.error.inj he).symm
  · simp at he

theorem enters_if_none {lock : Nat} (hout : ¬ c.Inside i n)
    (hi : (c.move outcome m).At i .current (.loading lock n)) :
    c.At i .current (.waiting lock) ∧ c.isTaken lock = false ∧ c.service.current = none := by
  cases reaches_of_at hi with
  | stayed hs => exact absurd ⟨_, lock, hs⟩ hout
  | entered hw hl hr => exact ⟨hw, hl, hr⟩

theorem own_of_fresh (hi : (after outcome ms).At i .fresh (.served r)) :
    ∃ n, Started outcome ms i n ∧ r = (outcome n).map fun a => ⟨n, a⟩ := by
  obtain hown | ⟨hw, -⟩ := served_from hi
  · exact hown
  · simp at hw

/-- Loads never overlap, the current result is that of the last successful load, and no caller gets
a result older than the one current on arrival. -/
theorem orderly (outcome : Nat → Except String α) (ms : List Move) (h : Move.reset ∉ ms) :
    Orderly outcome ms := by
  have hinv : Inv outcome (after outcome ms) := inv_after h
  refine ⟨?_, hinv.taken_iff, ?_, ?_, hinv.current_iff, ?_, over_of_told h, error_of_told, ?_, ?_,
    own_of_fresh, Started.unique h⟩
  · intro i j m n hi hj
    have hm := (hinv.running hi).2
    have hn := (hinv.running hj).2
    exact ⟨hinv.alone hi hj, by omega⟩
  · intro i w lock n hi
    rw [after_concat]
    exact hinv.freed hi
  · intro i w lock hi hl
    rw [after_concat]
    exact hinv.goes_on hi hl
  · intro i n e hi he
    obtain ⟨w, lock, hi⟩ := hi
    rw [after_concat]
    change ((after outcome ms).advance outcome i).service = _
    rw [advance_loading hi, he]
    rfl
  · intro m i lock n hout hi
    rw [after_concat] at hi
    exact enters_if_none hout hi
  · intro before later j v x r hms hj hi
    subst hms
    have hp : before <+: before ++ .call .current :: later := List.prefix_append before _
    obtain ⟨y, hy, hxy⟩ := (inv_before h hp).returned hj
    obtain hr | ⟨z, hr, hyz⟩ := (served_after h hy).2 hi
    · simp at hr
    · exact ⟨z, Stage.served.inj hr, hxy.trans hyz⟩

def firstFails : Nat → Except String String
  | 0 => .error "no such file"
  | _ + 1 => .ok "help"

/-- Two callers queue; the first load fails, and the second caller starts a load of its own. -/
def twoCallers : List Move :=
  [.call .current, .call .fresh, .advance 0, .advance 1, .advance 1, .advance 0, .advance 1,
    .advance 0, .advance 0]

theorem orderly_twoCallers : Move.reset ∉ twoCallers ∧ Orderly firstFails twoCallers ∧
    (after firstFails twoCallers).At 0 .current (.served (.ok ⟨1, "help"⟩)) :=
  ⟨by decide, orderly firstFails twoCallers (by decide), rfl⟩

end Crowd

end ScriptHelp
