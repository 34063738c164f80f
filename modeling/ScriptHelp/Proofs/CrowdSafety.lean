import Mathlib.Tactic.ByContra
import ScriptHelp.Proofs.CrowdSteps

namespace ScriptHelp

namespace Crowd

variable {α : Type}

def Inside (c : Crowd α) (i n : Nat) : Prop := ∃ w lock, c.At i w (.loading lock n)

/-- The number of loads that have ended; a running load is the last one started. -/
def ended (c : Crowd α) : Nat := if c.isTaken 0 then c.service.loads - 1 else c.service.loads

def latest (outcome : Nat → Except String α) : Nat → Option (Numbered α)
  | 0 => none
  | n + 1 => match outcome n with
    | .ok a => some ⟨n, a⟩
    | .error _ => latest outcome n

/-- The invariant of all steps while there is one lock. -/
structure Inv (outcome : Nat → Except String α) (c : Crowd α) : Prop where
  locks : c.locks.length = 1
  queued : ∀ {i w lock}, c.At i w (.waiting lock) → lock = 0
  loading : ∀ {i w lock n}, c.At i w (.loading lock n) → lock = 0
  running : ∀ {i n}, c.Inside i n → c.isTaken 0 = true ∧ n + 1 = c.service.loads
  alone : ∀ {i j m n}, c.Inside i m → c.Inside j n → i = j
  taken : c.isTaken 0 = true → ∃ i n, c.Inside i n
  current : c.service.current = latest outcome c.ended
  returned : ∀ {i w x}, c.At i w (.served (.ok x)) →
    ∃ y, c.service.current = some y ∧ x.load ≤ y.load

variable {outcome : Nat → Except String α} {c d : Crowd α} {i j n : Nat} {w : Wish} {s t : Stage α}

theorem latest_eq_some_iff {k : Nat} {x : Numbered α} : latest outcome k = some x ↔
    x.load < k ∧ outcome x.load = .ok x.value ∧
      ∀ m, x.load < m → m < k → ∃ e, outcome m = .error e := by
  induction k with
  | zero => simp [latest]
  | succ k ih =>
    obtain ⟨l, a⟩ := x
    rw [latest]
    cases hk : outcome k with
    | ok b =>
      simp only [Option.some.injEq, Numbered.mk.injEq]
      constructor
      · rintro ⟨rfl, rfl⟩
        exact ⟨by omega, hk, fun m hm hm' => by omega⟩
      · rintro ⟨hl, ha, hlater⟩
        have hlk : k = l := by
          by_contra hne
          obtain ⟨e, he⟩ := hlater k (by omega) (by omega)
          simp [hk] at he
        subst hlk
        exact ⟨rfl, Except.ok.inj (hk.symm.trans ha)⟩
    | error e =>
      simp only [ih]
      constructor
      · rintro ⟨hl, ha, hlater⟩
        refine ⟨by omega, ha, fun m hm hm' => ?_⟩
        by_cases hmk : m = k
        · exact ⟨e, hmk ▸ hk⟩
        · exact hlater m hm (by omega)
      · rintro ⟨hl, ha, hlater⟩
        have hlk : l ≠ k := by
          rintro rfl
          simp [hk] at ha
        exact ⟨by omega, ha, fun m hm hm' => hlater m hm (by omega)⟩

theorem inside_setStage (hd : d.callers = c.setStage i t) (h : c.At i w s) :
    d.Inside j n ↔ if j = i then ∃ lock, t = .loading lock n else c.Inside j n := by
  unfold Inside
  simp only [at_of_setStage hd h]
  split_ifs
  · constructor
    · rintro ⟨-, lock, -, ht⟩
      exact ⟨lock, ht.symm⟩
    · rintro ⟨lock, ht⟩
      exact ⟨w, lock, rfl, ht.symm⟩
  · rfl

theorem isTaken_of_set {b : Bool} (h : c.locks.length = 1) (hd : d.locks = c.locks.set 0 b) :
    d.isTaken 0 = b := by
  simp [isTaken, hd, h]

theorem not_inside_of_free (h : Inv outcome c) (hl : c.isTaken 0 = false) : ¬ c.Inside j n := by
  intro hj
  simp [(h.running hj).1] at hl

theorem inv_start : Inv outcome (ofService {} : Crowd α) where
  locks := rfl
  queued h := by simp [At, ofService] at h
  loading h := by simp [At, ofService] at h
  running h := by simp [Inside, At, ofService] at h
  alone h := by simp [Inside, At, ofService] at h
  taken h := by simp [isTaken, ofService] at h
  current := rfl
  returned h := by simp [At, ofService] at h

namespace Inv

/-- A step in which no caller enters or leaves a load keeps the invariant. -/
theorem quiet (h : Inv outcome c) (hs : d.service = c.service) (hl : d.locks = c.locks)
    (hi : ∀ j n, d.Inside j n ↔ c.Inside j n)
    (hq : ∀ {j v lock}, d.At j v (.waiting lock) → lock = 0)
    (hg : ∀ {j v lock n}, d.At j v (.loading lock n) → lock = 0)
    (hr : ∀ {j v x}, d.At j v (.served (.ok x)) →
      ∃ y, d.service.current = some y ∧ x.load ≤ y.load) : Inv outcome d := by
  have ht : d.isTaken 0 = c.isTaken 0 := by simp only [isTaken, hl]
  refine ⟨hl ▸ h.locks, hq, hg, ?_, ?_, ?_, ?_, hr⟩
  · intro j n hj
    rw [ht, hs]
    exact h.running ((hi j n).mp hj)
  · intro j k m n hj hk
    exact h.alone ((hi j m).mp hj) ((hi k n).mp hk)
  · intro htaken
    obtain ⟨j, n, hj⟩ := h.taken (ht ▸ htaken)
    exact ⟨j, n, (hi j n).mpr hj⟩
  · simp only [ended, ht, hs, h.current]

theorem call (h : Inv outcome c) (w : Wish) : Inv outcome (c.move outcome (.call w)) := by
  refine h.quiet rfl rfl ?_ ?_ ?_ ?_
  · intro j n
    simp [Inside, at_of_call]
  · intro j v lock hj
    exact h.queued ((at_of_call.mp hj).resolve_right (by simp))
  · intro j v lock n hj
    exact h.loading ((at_of_call.mp hj).resolve_right (by simp))
  · intro j v x hj
    exact h.returned ((at_of_call.mp hj).resolve_right (by simp))

/-- A caller moves outside any load, and to no result newer than the current one. -/
theorem settle (h : Inv outcome c) (hi : c.At i w s) (hs : ∀ lock n, s ≠ .loading lock n)
    (ht : ∀ lock n, t ≠ .loading lock n) (hq : ∀ lock, t = .waiting lock → lock = 0)
    (hr : ∀ x, t = .served (.ok x) → ∃ y, c.service.current = some y ∧ x.load ≤ y.load) :
    Inv outcome { c with callers := c.setStage i t } := by
  have hat : ∀ j v u, ({ c with callers := c.setStage i t } : Crowd α).At j v u ↔
      if j = i then v = w ∧ u = t else c.At j v u := fun j v u => at_of_setStage rfl hi
  refine h.quiet rfl rfl ?_ ?_ ?_ ?_
  · intro j n
    rw [inside_setStage rfl hi]
    by_cases hj : j = i
    · subst hj
      have hnot : ¬ c.Inside j n := fun ⟨v, lock, hv⟩ => hs lock n (hi.unique hv).2
      simp [ht, hnot]
    · rw [if_neg hj]
  · intro j v lock hj
    rw [hat] at hj
    split_ifs at hj
    · exact hq lock hj.2.symm
    · exact h.queued hj
  · intro j v lock n hj
    rw [hat] at hj
    split_ifs at hj
    · exact absurd hj.2.symm (ht lock n)
    · exact h.loading hj
  · intro j v x hj
    rw [hat] at hj
    split_ifs at hj
    · exact hr x hj.2.symm
    · exact h.returned hj

theorem serve {x : Numbered α} (h : Inv outcome c) (hi : c.At i w s)
    (hs : ∀ lock n, s ≠ .loading lock n) (hx : c.service.current = some x) :
    Inv outcome (c.serve i (.ok x)) := by
  refine h.settle hi hs (by simp) (by simp) ?_
  intro y hy
  simp only [Stage.served.injEq, Except.ok.injEq] at hy
  exact ⟨x, hx, Nat.le_of_eq (by rw [hy])⟩

theorem queue (h : Inv outcome c) (hi : c.At i w .arriving) : Inv outcome (c.queue i) := by
  refine h.settle hi (by simp) (by simp) ?_ (by simp)
  intro lock hlock
  simp only [newestLock, h.locks, Stage.waiting.injEq] at hlock
  exact hlock.symm

theorem start {lock : Nat} (h : Inv outcome c) (hi : c.At i w (.waiting lock))
    (hl : c.isTaken lock = false) : Inv outcome (c.startLoad i lock) := by
  have hzero := h.queued hi
  subst hzero
  have htaken : (c.startLoad i 0).isTaken 0 = true := isTaken_of_set h.locks rfl
  have hat : ∀ j v u, (c.startLoad i 0).At j v u ↔
      if j = i then v = w ∧ u = .loading 0 c.service.loads else c.At j v u :=
    fun j v u => at_of_setStage rfl hi
  -- the lock was free, so `i` is the only one inside
  have hin : ∀ j n, (c.startLoad i 0).Inside j n → j = i ∧ n = c.service.loads := by
    intro j n hj
    rw [inside_setStage rfl hi] at hj
    by_cases hji : j = i
    · rw [if_pos hji] at hj
      obtain ⟨lock, hlock⟩ := hj
      exact ⟨hji, (Stage.loading.inj hlock).2.symm⟩
    · rw [if_neg hji] at hj
      exact absurd hj (not_inside_of_free h hl)
  refine ⟨by simp [startLoad, h.locks], ?_, ?_, ?_, ?_, ?_, ?_, ?_⟩
  · intro j v lock hj
    rw [hat] at hj
    split_ifs at hj
    · simp at hj
    · exact h.queued hj
  · intro j v lock n hj
    rw [hat] at hj
    split_ifs at hj
    · exact (Stage.loading.inj hj.2).1
    · exact h.loading hj
  · intro j n hj
    exact ⟨htaken, by rw [(hin j n hj).2]; rfl⟩
  · intro j k m n hj hk
    rw [(hin j m hj).1, (hin k n hk).1]
  · intro _
    exact ⟨i, c.service.loads, w, 0, (hat _ _ _).mpr (by simp)⟩
  · have hended : (c.startLoad i 0).ended = c.ended := by
      unfold ended
      rw [htaken, hl]
      rfl
    rw [hended]
    exact h.current
  · intro j v x hj
    rw [hat] at hj
    split_ifs at hj
    · simp at hj
    · exact h.returned hj

theorem latest_inside (h : Inv outcome c) (hi : c.Inside i n) :
    c.service.current = latest outcome n := by
  obtain ⟨htaken, hn⟩ := h.running hi
  rw [h.current, ended, if_pos htaken, ← hn, Nat.add_sub_cancel]

theorem latest_finish (h : Inv outcome c) (hi : c.Inside i n) :
    (c.service.finish n (outcome n)).current = latest outcome (n + 1) := by
  rw [latest, ← h.latest_inside hi]
  cases outcome n <;> rfl

theorem newer_finish {x : Numbered α} (h : Inv outcome c) (hi : c.Inside i n)
    (hx : c.service.current = some x) :
    ∃ y, (c.service.finish n (outcome n)).current = some y ∧ x.load ≤ y.load := by
  cases outcome n with
  | error e => exact ⟨x, hx, Nat.le_refl _⟩
  | ok a =>
    rw [h.latest_inside hi] at hx
    exact ⟨⟨n, a⟩, rfl, Nat.le_of_lt (latest_eq_some_iff.mp hx).1⟩

theorem finish {lock : Nat} (h : Inv outcome c) (hi : c.At i w (.loading lock n)) :
    Inv outcome (c.finishLoad i lock n (outcome n)) := by
  have hzero := h.loading hi
  subst hzero
  have hinside : c.Inside i n := ⟨w, 0, hi⟩
  have hfree : (c.finishLoad i 0 n (outcome n)).isTaken 0 = false := isTaken_of_set h.locks rfl
  have hat : ∀ j v u, (c.finishLoad i 0 n (outcome n)).At j v u ↔
      if j = i then v = w ∧ u = .served ((outcome n).map fun a => ⟨n, a⟩) else c.At j v u :=
    fun j v u => at_of_setStage rfl hi
  -- `i` leaves, and nobody else was inside
  have hout : ∀ j m, ¬ (c.finishLoad i 0 n (outcome n)).Inside j m := by
    intro j m hj
    rw [inside_setStage rfl hi] at hj
    split_ifs at hj with hji
    · simp at hj
    · exact hji (h.alone hj hinside)
  refine ⟨by simp [finishLoad, h.locks], ?_, ?_, ?_, ?_, ?_, ?_, ?_⟩
  · intro j v lock hj
    rw [hat] at hj
    split_ifs at hj
    · simp at hj
    · exact h.queued hj
  · intro j v lock m hj
    exact absurd ⟨v, lock, hj⟩ (hout j m)
  · intro j m hj
    exact absurd hj (hout j m)
  · intro j k l m hj
    exact absurd hj (hout j l)
  · intro htaken
    simp [hfree] at htaken
  · have hloads : (c.service.finish n (outcome n)).loads = n + 1 := by
      rw [(h.running hinside).2]
      cases outcome n <;> rfl
    change (c.service.finish n (outcome n)).current = _
    rw [h.latest_finish hinside, ended, hfree]
    exact congrArg (latest outcome) hloads.symm
  · intro j v x hj
    change ∃ y, (c.service.finish n (outcome n)).current = some y ∧ x.load ≤ y.load
    rw [hat] at hj
    split_ifs at hj
    · cases hn : outcome n with
      | ok a =>
        rw [hn] at hj
        simp only [Except.map, Stage.served.injEq, Except.ok.injEq] at hj
        exact ⟨⟨n, a⟩, rfl, Nat.le_of_eq (congrArg Numbered.load hj.2)⟩
      | error e => simp [hn, Except.map] at hj
    · obtain ⟨y, hy, hxy⟩ := h.returned hj
      obtain ⟨z, hz, hyz⟩ := h.newer_finish hinside hy
      exact ⟨z, hz, Nat.le_trans hxy hyz⟩

theorem advance (h : Inv outcome c) (i : Nat) : Inv outcome (c.advance outcome i) := by
  have hstep := advance_cases outcome c i
  generalize c.advance outcome i = d at hstep ⊢
  cases hstep with
  | absent _ => exact h
  | done _ => exact h
  | blocked _ _ => exact h
  | door hi hx => exact h.serve hi (by simp) hx
  | queue hi _ => exact h.queue hi
  | reuse hi _ hx => exact h.serve hi (by simp) hx
  | start hi hl _ => exact h.start hi hl
  | finish hi => exact h.finish hi

theorem move {m : Move} (h : Inv outcome c) (hm : m ≠ .reset) : Inv outcome (c.move outcome m) := by
  cases m with
  | call w => exact h.call w
  | advance i => exact h.advance i
  | reset => exact absurd rfl hm

end Inv

end Crowd

end ScriptHelp
