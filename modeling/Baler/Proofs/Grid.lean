import Mathlib.Tactic.Ring
import Baler.Proofs.Clock

/-! At what instants ticks are due. The timer counts intervals from the start of its run until it misses
its next instant by an interval or more; then it counts from the instant at which the loop finds out. -/
namespace Baler

/-- An instant lies some intervals after another. -/
def OnGrid (start interval instant : ℚ) : Prop := ∃ k : ℕ, 0 < k ∧ instant = start + k * interval

/-- The timer counts intervals from an instant. -/
structure Ticker.CountsFrom (start i : ℚ) (t : Ticker ℚ) : Prop where
  interval : t.interval = i
  next : OnGrid start i t.next

/-- Where the timer of a run counts from. -/
structure Timed.Anchored (t₀ i : ℚ) (t : Timed) : Prop where
  anchor : t₀ ≤ t.anchor
  now : t₀ ≤ t.now
  counts : ∀ r, t.consumer.run = some r → r.phase.isLoop = true → r.ticker.CountsFrom t.anchor i

variable {i now start : ℚ}

theorem onGrid_add (start i : ℚ) : OnGrid start i (start + i) := ⟨1,one_pos,by simp⟩

theorem OnGrid.add {instant : ℚ} (h : OnGrid start i instant) : OnGrid start i (instant + i) := by
  obtain ⟨k,-,rfl⟩ := h
  refine ⟨k + 1,Nat.succ_pos k,?_⟩
  push_cast
  ring

/-- An instant on the grid of a later start is on the grid of an earlier one exactly if the later start
is some intervals after the earlier. -/
theorem OnGrid.iff {t₀ instant : ℚ} (h : OnGrid start i instant) (pos : 0 < i) (le : t₀ ≤ start) :
    OnGrid t₀ i instant ↔ ∃ m : ℕ, start = t₀ + m * i := by
  obtain ⟨k,hk,rfl⟩ := h
  constructor
  · rintro ⟨n,-,hn⟩
    -- the later start does not precede the earlier, so no fewer intervals lead here from the earlier
    have ahead : (k : ℚ) * i ≤ n * i := by linarith
    have more : k ≤ n := by exact_mod_cast le_of_mul_le_mul_right ahead pos
    refine ⟨n - k,?_⟩
    rw [Nat.cast_sub more,sub_mul]
    linarith
  · rintro ⟨m,rfl⟩
    refine ⟨m + k,Nat.add_pos_right m hk,?_⟩
    push_cast
    ring

namespace Ticker

variable {t : Ticker ℚ}

/-- A tick that is not lost goes on counting. -/
theorem CountsFrom.advance (h : t.CountsFrom start i) (kept : t.isLost now = false) :
    (t.advance now).CountsFrom start i := by
  have early : ¬ t.next + t.interval ≤ now := by simpa [isLost] using kept
  refine ⟨by rw [interval_advance,h.interval],?_⟩
  rw [next_advance,if_neg early,h.interval]
  exact h.next.add

/-- A lost tick counts anew. -/
theorem CountsFrom.restart (h : t.CountsFrom start i) (lost : t.isLost now = true) :
    (t.advance now).CountsFrom now i := by
  have late : t.next + t.interval ≤ now := by simpa [isLost] using lost
  refine ⟨by rw [interval_advance,h.interval],?_⟩
  rw [next_advance,if_pos late,h.interval]
  exact onGrid_add now i

end Ticker

namespace Timed

variable {t : Timed} {r r' : Run ℚ} {t₀ : ℚ}

/-- A signal lets the timer count on, or counts it anew and writes that down. -/
theorem Anchored.counts_next (h : t.Anchored t₀ i) (pos : 0 < i) (hr : t.consumer.run = some r)
    (s : Signal Unit) (hr' : (t.next (.signal s)).consumer.run = some r') (hl : r'.phase.isLoop = true) :
    r'.ticker.CountsFrom (t.next (.signal s)).anchor i := by
  have counts := h.counts r hr (looping_next hr hr' hl)
  have anchor := t.anchor_next s
  rw [recounts_of_run hr hr'] at anchor
  rcases (pace_next hr s).ticker hr' hl with same | ⟨due,ticked⟩
  · rw [same] at anchor ⊢
    rw [anchor]
    simpa using counts
  · have late : r.ticker.next ≤ t.now := by simpa [Ticker.isDue] using due
    have later : t.now < (r.ticker.advance t.now).next :=
      Ticker.lt_next_advance (by rwa [counts.interval])
    have moved : r.ticker.next ≠ (r.ticker.advance t.now).next := (late.trans_lt later).ne
    rw [ticked] at anchor ⊢
    cases hq : r.ticker.isLost t.now with
    | true =>
      have anew : (t.next (.signal s)).anchor = t.now := by simpa [moved,hq] using anchor
      rw [anew]
      exact counts.restart hq
    | false =>
      have kept : (t.next (.signal s)).anchor = t.anchor := by simpa [hq] using anchor
      rw [kept]
      exact counts.advance hq

theorem Anchored.next (h : t.Anchored t₀ i) (pos : 0 < i) (x : Happening) : (t.next x).Anchored t₀ i := by
  cases x with
  | pass d =>
    have passed : t.now ≤ t.now + d := by simp
    exact ⟨h.anchor,h.now.trans passed,h.counts⟩
  | signal s =>
    refine ⟨?_,h.now,fun r' hr' hl => ?_⟩
    · rw [anchor_next]
      split
      · exact h.now
      · exact h.anchor
    · cases hr : t.consumer.run with
      | none => rw [next_of_rest hr,hr] at hr'; cases hr'
      | some r => exact h.counts_next pos hr s hr' hl

theorem Anchored.after (h : t.Anchored t₀ i) (pos : 0 < i) (hs : List Happening) :
    (t.after hs).Anchored t₀ i := by
  induction hs generalizing t with
  | nil => exact h
  | cons x hs ih => exact ih (h.next pos x)

theorem anchored_launch (instant : Float → ℚ) {c : Consumer ℚ} (hc : c.run = none) {wait : Float}
    (hw : c.policy.wait.toFloat = .ok wait) (pos : 0 < instant wait) (subscription : Except Fault Bool)
    (t₀ : ℚ) : (launch instant c subscription t₀).Anchored t₀ (instant wait) := by
  obtain ⟨-,-,begun⟩ := launch_cases hc hw pos subscription t₀
  refine ⟨le_rfl,le_rfl,fun r hr _ => ?_⟩
  obtain ⟨r',hr',-,ticker⟩ := begun.resolve_left (by simp [hr])
  obtain rfl := Option.some.inj (hr.symm.trans hr')
  rw [ticker]
  exact ⟨rfl,onGrid_add t₀ (instant wait)⟩

/-- In a run over exact time, whatever its stream, its strategy and the broker answer and however long
that takes: the next tick is due some intervals after the start of the run or, if the loop has found
its timer overdue by an interval or more, some intervals after the last instant at which it has. So it
is due on the grid that begins with the run exactly as long as that instant lies on it. -/
theorem next_onGrid_iff (instant : Float → ℚ) {c : Consumer ℚ} (hc : c.run = none) {wait : Float}
    (hw : c.policy.wait.toFloat = .ok wait) (pos : 0 < instant wait) (subscription : Except Fault Bool)
    (t₀ : ℚ) (hs : List Happening) :
    let t := (launch instant c subscription t₀).after hs
    ∀ r, t.consumer.run = some r → r.phase.isLoop = true →
      OnGrid t.anchor (instant wait) r.ticker.next ∧
      (OnGrid t₀ (instant wait) r.ticker.next ↔ ∃ m : ℕ, t.anchor = t₀ + m * instant wait) := by
  intro t r hr hl
  have anchored : t.Anchored t₀ (instant wait) :=
    (anchored_launch instant hc hw pos subscription t₀).after pos hs
  have next := (anchored.counts r hr hl).next
  exact ⟨next,next.iff pos anchored.anchor⟩

/-- A consumer whose timer is due every second. -/
def everySecond : Consumer ℚ := .fresh "orders" ⟨5, .real 1, .individual, by decide⟩ false

/-- One delivery, which the first tick flushes, and a strategy that takes its time over it. -/
def flushLasting (d : NNRat) : List Happening :=
  [.signal (.received (.delivery ⟨1, [], "orders"⟩)), .signal (.wake ()), .pass 1, .signal (.wake ()),
    .pass d, .signal (.replied (.answered (.outcome .success)) ()), .signal (.replied (.settled none) ())]

theorem on_grid_after_two_seconds :
    let t := (launch (fun _ => 1) everySecond (.ok true) 0).after (flushLasting 2)
    t.anchor = 3 ∧ ∃ r, t.consumer.run = some r ∧ r.phase.isLoop = true ∧
      OnGrid t.anchor 1 r.ticker.next ∧ OnGrid 0 1 r.ticker.next := by
  intro t
  have anchor : t.anchor = 3 := by decide +kernel
  have looping : t.consumer.looping = true := by decide +kernel
  obtain ⟨r,hr⟩ : ∃ r, t.consumer.run = some r := Option.isSome_iff_exists.mp (by decide +kernel)
  rw [Consumer.looping_of_run hr] at looping
  have h := next_onGrid_iff (fun _ => 1) (c := everySecond) rfl rfl (by norm_num) (.ok true) 0
    (flushLasting 2) r hr looping
  exact ⟨anchor,r,hr,looping,h.1,h.2.mpr ⟨3,by rw [show _ = (3 : ℚ) from anchor]; norm_num⟩⟩

/-- A flush that lasts two and a half seconds moves all later ticks off the grid. -/
theorem off_grid_after_two_and_a_half :
    let t := (launch (fun _ => 1) everySecond (.ok true) 0).after (flushLasting (5 / 2))
    (launch (fun _ => 1) everySecond (.ok true) 0).Timely (flushLasting (5 / 2)) ∧
      ∃ r, t.consumer.run = some r ∧ r.phase.isLoop = true ∧ r.ticker.next = 9 / 2 ∧
        ¬ OnGrid 0 1 r.ticker.next := by
  intro t
  have timely : (launch (fun _ => 1) everySecond (.ok true) 0).Timely (flushLasting (5 / 2)) := by
    decide +kernel
  have looping : t.consumer.looping = true := by decide +kernel
  have next : t.consumer.run.map (·.ticker.next) = some (9 / 2) := by decide +kernel
  obtain ⟨r,hr,due⟩ := Option.map_eq_some_iff.mp next
  rw [Consumer.looping_of_run hr] at looping
  refine ⟨timely,r,hr,looping,due,?_⟩
  rintro ⟨k,-,hk⟩
  have twice : (2 * k : ℚ) = 9 := by rw [due] at hk; linarith
  have even : 2 * k = 9 := by exact_mod_cast twice
  omega

end Timed
end Baler
