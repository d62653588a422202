import Baler.Proofs.Clock

/-! How long a delivery waits. The timer is due again within an interval of every delivery's coming, and
when it is due the loop empties the buffer. -/
namespace Baler

/-- How the timer of a loop stands to the clock and to the deliveries in the buffer: it is due within an
interval of now and of the coming of each of them; and the loop waits for an instant that lay ahead
when it entered its wait. -/
structure Run.Clocked (i now entered : ℚ) (since : List ℚ) (r : Run ℚ) : Prop where
  interval : r.ticker.interval = i
  turning : r.phase ≠ .spinning
  soon : r.ticker.next ≤ now + i
  covers : ∀ u ∈ since, r.ticker.next ≤ u + i
  waits : r.phase = .waiting →
    now ≤ r.ticker.next ∧ entered < r.ticker.next ∧ r.ticker.next ≤ entered + i

/-- What keeps the deliveries of the buffer from waiting longer than an interval. -/
structure Timed.Paced (i : ℚ) (t : Timed) : Prop where
  counted : t.since.length = t.consumer.buffer.size
  emptied : t.consumer.flushing = true → t.consumer.buffer.items = []
  young : ∀ r, t.consumer.run = some r → ∀ u ∈ t.since, t.now ≤ u + i
  clocked : ∀ r, t.consumer.run = some r → r.phase.isLoop = true →
    r.Clocked i t.now t.entered t.since

/-- A turn leaves the timer ahead of now, and changes it only when it leaves the buffer empty. -/
theorem Turned.ahead {i now : ℚ} {r : Run ℚ} {e d : Consumer ℚ} {batches : List (List Handle)}
    (go : Turned now e r d batches) (pos : 0 < i) (interval : r.ticker.interval = i)
    (soon : r.ticker.next ≤ now + i) :
    ∃ r', d.run = some r' ∧ r'.phase ≠ .spinning ∧ r'.ticker.interval = i ∧ now < r'.ticker.next ∧
      r'.ticker.next ≤ now + i ∧ (r'.ticker = r.ticker ∨ d.buffer.items = []) := by
  have kept : (r.ticker.advance now).interval = i := by rw [Ticker.interval_advance,interval]
  have later : now < (r.ticker.advance now).next := Ticker.lt_next_advance (by rwa [interval])
  have near : r.ticker.isDue now = true → (r.ticker.advance now).next ≤ now + i := by
    intro due
    rw [← interval]
    exact Ticker.next_advance_le (by simpa [Ticker.isDue] using due)
  cases go with
  | early early =>
    have ahead : now < r.ticker.next := by simpa [Ticker.isDue] using early
    exact ⟨_,rfl,(fun h => by cases h),interval,ahead,soon,.inl rfl⟩
  | idles due empty _ => exact ⟨_,rfl,(fun h => by cases h),kept,later,near due,.inr empty⟩
  | spins due empty again =>
    rw [Ticker.isDue_advance (by rwa [interval])] at again
    cases again
  | flushes due filled => exact ⟨_,rfl,(fun h => by cases h),kept,later,near due,.inr rfl⟩

namespace Timed

variable {t : Timed} {r r' : Run ℚ} {i : ℚ}

/-- A signal keeps the timer of a loop in step with the clock. -/
theorem Paced.clocked_next (h : t.Paced i) (pos : 0 < i) (hr : t.consumer.run = some r) (s : Signal Unit)
    (hr' : (t.next (.signal s)).consumer.run = some r') (hl : r'.phase.isLoop = true) :
    r'.Clocked i t.now (t.next (.signal s)).entered (t.next (.signal s)).since := by
  obtain ⟨interval,turning,soon,covers,waits⟩ := h.clocked r hr (looping_next hr hr' hl)
  -- the timer as it was covers what the signal leaves, as what comes now has an interval ahead of it
  have covered : ∀ u ∈ (t.next (.signal s)).since, r.ticker.next ≤ u + i := by
    intro u hu
    rcases mem_since_next hu with hu | rfl
    · exact covers u hu
    · exact soon
  have entering := t.entered_next s
  rw [enters_of_run hr hr'] at entering
  cases pace_next hr s with
  | rests hd ticker phase unwoken =>
    obtain rfl := Option.some.inj (hr'.symm.trans hd)
    refine ⟨ticker ▸ interval,phase ▸ turning,ticker ▸ soon,ticker ▸ covered,fun hw => ?_⟩
    have waiting : r.phase.isWait = true := by rw [← phase,hw]; rfl
    have asleep : s.isWake = false := by
      cases hs : s.isWake with
      | false => rfl
      | true => rw [unwoken hs] at waiting; cases waiting
    have same : (t.next (.signal s)).entered = t.entered := by
      rw [entering,asleep,waiting,Bool.not_true,Bool.or_false,Bool.and_false]
      rfl
    rw [same,ticker]
    exact waits (phase ▸ hw)
  | flushes hd ticker phase =>
    obtain rfl := Option.some.inj (hr'.symm.trans hd)
    refine ⟨ticker ▸ interval,fun hw => ?_,ticker ▸ soon,ticker ▸ covered,fun hw => ?_⟩
    · simp [hw,Phase.isFlush] at phase
    · simp [hw,Phase.isFlush] at phase
  | turns go ticker woken =>
    obtain ⟨r₁,hd,turning,interval,ahead,soon,same⟩ :=
      go.ahead pos (ticker ▸ interval) (ticker ▸ soon)
    obtain rfl := Option.some.inj (hr'.symm.trans hd)
    refine ⟨interval,turning,soon,fun u hu => ?_,fun hw => ?_⟩
    · rcases same with same | empty
      · rw [same,ticker]
        exact covered u hu
      · simp [since_of_empty (counted_next h.counted s) empty] at hu
    · have now : (t.next (.signal s)).entered = t.now := by
        rw [entering,hw,show Phase.waiting.isWait = true from rfl]
        rcases woken with woken | woken <;> simp [woken]
      rw [now]
      exact ⟨ahead.le,ahead,soon⟩
  | leaves outside =>
    rw [Consumer.looping_of_run hr',hl] at outside
    cases outside

/-- A signal is over at once, and what it leaves in the buffer is not older than it was. -/
theorem Paced.signal (h : t.Paced i) (pos : 0 < i) (s : Signal Unit) : (t.next (.signal s)).Paced i := by
  cases hr : t.consumer.run with
  | none => rwa [next_of_rest hr]
  | some r =>
    refine ⟨counted_next h.counted s,(t.move_next s).emptied h.emptied,fun r' hr' u hu => ?_,
      fun r' hr' hl => h.clocked_next pos hr s hr' hl⟩
    change t.now ≤ u + i
    rcases mem_since_next hu with hu | rfl
    · exact h.young r hr u hu
    · linarith

/-- Time that a run lets pass makes no delivery of its buffer too old. -/
theorem Paced.pass (h : t.Paced i) {d : NNRat} (ok : t.lets (.pass d) = true) :
    (t.next (.pass d)).Paced i := by
  have passed : t.now ≤ t.now + d := by simp
  suffices ∀ r, t.consumer.run = some r → (∀ u ∈ t.since, t.now + d ≤ u + i) ∧
      (r.phase.isLoop = true → r.Clocked i (t.now + d) t.entered t.since) from
    ⟨h.counted,h.emptied,fun r hr => (this r hr).1,fun r hr => (this r hr).2⟩
  intro r hr
  simp only [lets,hr] at ok
  cases hp : r.phase with
  | waiting =>
    obtain ⟨interval,turning,soon,covers,waits⟩ := h.clocked r hr (by rw [hp]; rfl)
    have early : t.now + d ≤ r.ticker.next := by simpa [hp] using ok
    refine ⟨fun u hu => early.trans (covers u hu),fun _ => ⟨interval,turning,?_,covers,fun hw => ?_⟩⟩
    · linarith
    · exact ⟨early,(waits hw).2⟩
  -- a flush may take any time, since nothing is in the buffer meanwhile
  | flushing trigger size work =>
    have flushing : t.consumer.flushing = true := by rw [Consumer.flushing_of_run hr,hp]; rfl
    have none := since_of_empty h.counted (h.emptied flushing)
    obtain ⟨interval,turning,soon,covers,waits⟩ := h.clocked r hr (by rw [hp]; rfl)
    refine ⟨by simp [none],fun _ => ⟨interval,turning,?_,covers,fun hw => ?_⟩⟩
    · linarith
    · rw [hp] at hw
      cases hw
  | _ =>
    obtain rfl : d = 0 := by simpa [hp] using ok
    rw [NNRat.coe_zero,add_zero,← hp]
    exact ⟨h.young r hr,h.clocked r hr⟩

theorem Paced.next (h : t.Paced i) (pos : 0 < i) {x : Happening} (ok : t.lets x = true) :
    (t.next x).Paced i := by
  cases x with
  | pass d => exact h.pass ok
  | signal s => exact h.signal pos s

theorem Paced.after (h : t.Paced i) (pos : 0 < i) {hs : List Happening} (timely : t.Timely hs) :
    (t.after hs).Paced i := by
  induction hs generalizing t with
  | nil => exact h
  | cons x hs ih => exact ih (h.next pos timely.1) timely.2

theorem paced_launch (instant : Float → ℚ) {c : Consumer ℚ} (hc : c.run = none) {wait : Float}
    (hw : c.policy.wait.toFloat = .ok wait) (pos : 0 < instant wait) (subscription : Except Fault Bool)
    (t₀ : ℚ) : (launch instant c subscription t₀).Paced (instant wait) := by
  obtain ⟨buffer,since,begun⟩ := launch_cases hc hw pos subscription t₀
  have now : (launch instant c subscription t₀).now = t₀ := rfl
  have entered : (launch instant c subscription t₀).entered = t₀ := rfl
  have carried : ∀ u ∈ (launch instant c subscription t₀).since, u = t₀ := by
    intro u hu
    rw [since] at hu
    obtain ⟨g,-,rfl⟩ := List.mem_map.mp hu
    rfl
  have resting : (launch instant c subscription t₀).consumer.flushing = false := by
    rcases begun with hr | ⟨r,hr,hp,-⟩
    · rw [Consumer.flushing,hr]; rfl
    · rw [Consumer.flushing_of_run hr,hp]; rfl
  refine ⟨by rw [since,buffer,List.length_map]; rfl,fun hf => by simp [resting] at hf,?_,?_⟩
  · intro r hr u hu
    rw [now,carried u hu]
    linarith
  · intro r hr hl
    obtain ⟨r',hr',hp,ticker⟩ := begun.resolve_left (by simp [hr])
    obtain rfl := Option.some.inj (hr.symm.trans hr')
    have next : r.ticker.next = t₀ + instant wait := by rw [ticker]; rfl
    refine ⟨by rw [ticker]; rfl,by simp [hp],by rw [next,now],fun u hu => ?_,fun _ => ?_⟩
    · rw [next,carried u hu]
    · rw [next,now,entered]
      exact ⟨by linarith,by linarith,le_rfl⟩

/-- However many signals come at one instant, the loop takes at most one tick then. -/
theorem Paced.ticker_after (h : t.Paced i) (pos : 0 < i) {ticker : Ticker ℚ}
    (once : ∀ r, t.consumer.run = some r → r.phase.isLoop = true → r.ticker = ticker ∨
      r.ticker = ticker.advance t.now ∧ t.now < r.ticker.next) (signals : List (Signal Unit)) :
    ∀ r, (t.after (signals.map .signal)).consumer.run = some r → r.phase.isLoop = true →
      r.ticker = ticker ∨ r.ticker = ticker.advance t.now := by
  induction signals generalizing t with
  | nil => exact fun r hr hl => (once r hr hl).imp_right And.left
  | cons s signals ih =>
    have at_once : (t.next (.signal s)).now = t.now := rfl
    refine at_once ▸ ih (h.signal pos s) (fun r' hr' hl => ?_)
    cases hr : t.consumer.run with
    | none => rw [next_of_rest hr,hr] at hr'; cases hr'
    | some r =>
      have hl₀ := looping_next hr hr' hl
      have interval := (h.clocked r hr hl₀).interval
      rw [at_once]
      rcases (pace_next hr s).ticker hr' hl with same | ⟨due,ticked⟩
      · rw [same]
        exact once r hr hl₀
      · rcases once r hr hl₀ with same | ⟨-,ahead⟩
        · rw [ticked,← same]
          exact .inr ⟨rfl,Ticker.lt_next_advance (by rwa [interval])⟩
        · have late : r.ticker.next ≤ t.now := by simpa [Ticker.isDue] using due
          exact absurd late ahead.not_ge

/-- In a run over exact time, with whatever was left in the buffer before, whatever the stream, the
strategy and the broker answer and however long that takes: no delivery is in the buffer for longer
than an interval. When the loop enters its wait, its timer is due later, but within an interval, and
within an interval of the coming of each delivery in the buffer. And at one instant, however often the
loop goes on then, it takes at most one tick. -/
theorem bounded_wait (instant : Float → ℚ) {c : Consumer ℚ} (hc : c.run = none) {wait : Float}
    (hw : c.policy.wait.toFloat = .ok wait) (pos : 0 < instant wait) (subscription : Except Fault Bool)
    (t₀ : ℚ) (hs : List Happening) (timely : (launch instant c subscription t₀).Timely hs) :
    let t := (launch instant c subscription t₀).after hs
    t.since.length = t.consumer.buffer.size ∧ ∀ r, t.consumer.run = some r →
      (∀ u ∈ t.since, t.now - u ≤ instant wait) ∧
      (r.phase = .waiting → 0 < r.ticker.next - t.entered ∧
        r.ticker.next - t.entered ≤ instant wait ∧ ∀ u ∈ t.since, r.ticker.next - instant wait ≤ u) ∧
      r.phase ≠ .spinning ∧
      ∀ (signals : List (Signal Unit)) r', (t.after (signals.map .signal)).consumer.run = some r' →
        r'.phase.isLoop = true → r'.ticker = r.ticker ∨ r'.ticker = r.ticker.advance t.now := by
  intro t
  have paced : t.Paced (instant wait) :=
    (paced_launch instant hc hw pos subscription t₀).after pos timely
  refine ⟨paced.counted,fun r hr => ⟨fun u hu => ?_,fun hp => ?_,fun hp => ?_,fun signals => ?_⟩⟩
  · have young := paced.young r hr u hu
    linarith
  · obtain ⟨-,-,-,covers,waits⟩ := paced.clocked r hr (by rw [hp]; rfl)
    obtain ⟨-,ahead,soon⟩ := waits hp
    refine ⟨by linarith,by linarith,fun u hu => ?_⟩
    have covered := covers u hu
    linarith
  · exact (paced.clocked r hr (by rw [hp]; rfl)).turning hp
  · refine paced.ticker_after pos (fun r' hr' _ => .inl ?_) signals
    rw [Option.some.inj (hr'.symm.trans hr)]

/-- A consumer with one delivery left in its buffer. -/
def holding : Consumer ℚ :=
  { Consumer.fresh "orders" ⟨3, .real 10, .individual, by decide⟩ false with
    buffer := ⟨.whole 3, [⟨1, [], "orders"⟩]⟩ }

/-- A second delivery joins it, and the strategy takes two and a half intervals over both; then a third
one waits until the timer is due. -/
def slowFlush : List Happening :=
  [.pass 4, .signal (.received (.delivery ⟨2, [], "orders"⟩)), .signal (.wake ()),
    .pass 6, .signal (.wake ()), .pass 25, .signal (.replied (.answered (.outcome .success)) ()),
    .signal (.replied (.settled none) ()), .signal (.replied (.settled none) ()),
    .pass 1, .signal (.received (.delivery ⟨3, [], "orders"⟩)), .signal (.wake ()), .pass 9]

theorem third_waits_nine :
    let t := (launch (fun _ => 10) holding (.ok true) 0).after slowFlush
    (launch (fun _ => 10) holding (.ok true) 0).Timely slowFlush ∧ t.since = [36] ∧
      ∃ r, t.consumer.run = some r ∧ r.phase = .waiting ∧ t.now - 36 ≤ 10 ∧
        0 < r.ticker.next - t.entered ∧ r.ticker.next - t.entered ≤ 10 ∧ r.ticker.next - 10 ≤ 36 ∧
        ∃ r', (t.after [.signal (.wake ())]).consumer.run = some r' ∧
          (r'.ticker = r.ticker ∨ r'.ticker = r.ticker.advance t.now) := by
  intro t
  have timely : (launch (fun _ => 10) holding (.ok true) 0).Timely slowFlush := by decide +kernel
  have h := bounded_wait (fun _ => 10) (c := holding) rfl rfl (by norm_num) (.ok true) 0 slowFlush timely
  have since : t.since = [36] := by decide +kernel
  have one : 36 ∈ t.since := by rw [since]; exact List.mem_singleton_self 36
  obtain ⟨r,hr⟩ : ∃ r, t.consumer.run = some r := Option.isSome_iff_exists.mp (by decide +kernel)
  have waiting : r.phase = .waiting := by
    have hw : t.consumer.waits = true := by decide +kernel
    rw [Consumer.waits_of_run hr] at hw
    cases hp : r.phase <;> simp [hp,Phase.isWait] at hw ⊢
  obtain ⟨r',hr'⟩ : ∃ r', (t.after [.signal (.wake ())]).consumer.run = some r' :=
    Option.isSome_iff_exists.mp (by decide +kernel)
  have looping : r'.phase.isLoop = true := by
    rw [← Consumer.looping_of_run hr']
    decide +kernel
  obtain ⟨young,waits,-,once⟩ := h.2 r hr
  obtain ⟨ahead,soon,covers⟩ := waits waiting
  exact ⟨timely,since,r,hr,waiting,young 36 one,ahead,soon,covers 36 one,r',hr',
    once [.wake ()] r' hr' looping⟩

end Timed
end Baler
