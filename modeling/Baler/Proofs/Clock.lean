import Mathlib.Algebra.Order.Ring.Rat
import Mathlib.Tactic.Linarith
import Baler.Proofs.Pace

/-! Runs over exact time. Time passes between the signals of a run, and a bystander with a clock
writes down at what instants things have happened. -/
namespace Baler

/-- What happens during a run: time passes, or a signal comes. -/
inductive Happening
  | pass (d : NNRat)
  | signal (s : Signal Unit)

/-- A consumer at an instant, and what the bystander has written down: when each delivery of the buffer
was put there or carried into the run; when the loop last entered its wait; and from when the timer
counts its intervals. -/
structure Timed where
  consumer : Consumer ℚ
  now : ℚ
  since : List ℚ
  entered : ℚ
  anchor : ℚ

/-- Whether the timer has missed its next instant by an interval or more, and so will count anew. -/
def Ticker.isLost {τ : Type} [Add τ] [LE τ] [DecidableLE τ] (t : Ticker τ) (now : τ) : Bool :=
  t.next + t.interval ≤ now

namespace Timed

/-- A run that begins at an instant, on what the last run has left in the buffer. -/
def launch (instant : Float → ℚ) (c : Consumer ℚ) (subscription : Except Fault Bool) (t₀ : ℚ) : Timed :=
  let (d, actions) := c.react instant (.begin subscription t₀)
  ⟨d, t₀, (c.buffer.items.map fun _ => t₀).drop (taken actions).flatten.length, t₀, t₀⟩

/-- Whether a loop enters its wait when a signal turns it into another: it waits then, and did not
before, or has been woken. -/
def enters (c d : Consumer ℚ) (s : Signal Unit) : Bool := d.waits && (s.isWake || !c.waits)

/-- Whether the timer counts anew: the loop has taken a tick that was lost. -/
def recounts (c d : Consumer ℚ) (now : ℚ) : Bool :=
  match c.run, d.run with
  | some r, some r' => r.ticker.next ≠ r'.ticker.next && r.ticker.isLost now
  | _, _ => false

/-- What is written down when something happens. Batches are taken from the front of the buffer, and
what is read goes to its end. -/
def next (t : Timed) : Happening → Timed
  | .pass d => { t with now := t.now + d }
  | .signal s =>
    let x := t.consumer.sight (.signal (s.stamp t.now))
    let (d, actions) := t.consumer.step (s.stamp t.now)
    { consumer := d
      now := t.now
      since := (t.since ++ x.reading.map fun _ => t.now).drop (taken actions).flatten.length
      entered := if enters t.consumer d s then t.now else t.entered
      anchor := if recounts t.consumer d t.now then t.now else t.anchor }

/-- A run after what happens. -/
def after (t : Timed) (hs : List Happening) : Timed := hs.foldl next t

/-- Whether a run lets time pass: the loop while it waits, but not beyond the instant at which its timer
is due; a flush, which the strategy or the broker keeps, without end; and the cleanup not at all. -/
def lets (t : Timed) : Happening → Bool
  | .signal _ => true
  | .pass d =>
    match t.consumer.run with
    | none => true
    | some r =>
      match r.phase with
      | .waiting => t.now + d ≤ r.ticker.next
      | .flushing _ _ _ => true
      | _ => d = 0

/-- Time passes only while the run lets it. -/
def Timely (t : Timed) : List Happening → Prop
  | [] => True
  | h :: hs => t.lets h = true ∧ (t.next h).Timely hs

instance decidableTimely (t : Timed) : (hs : List Happening) → Decidable (t.Timely hs)
  | [] => .isTrue trivial
  | h :: hs =>
    have := decidableTimely (t.next h) hs
    inferInstanceAs (Decidable (_ ∧ _))

end Timed

namespace Ticker

variable {t : Ticker ℚ} {now : ℚ}

/-- A timer that has been due is due again later. -/
theorem lt_next_advance (pos : 0 < t.interval) : now < (t.advance now).next := by
  rw [next_advance]
  split <;> linarith

/-- It is due again within an interval. -/
theorem next_advance_le (due : t.next ≤ now) : (t.advance now).next ≤ now + t.interval := by
  rw [next_advance]
  split <;> linarith

theorem isDue_advance (pos : 0 < t.interval) : (t.advance now).isDue now = false := by
  have later : now < (t.advance now).next := lt_next_advance pos
  simpa [isDue] using later

end Ticker

namespace Timed

variable {t : Timed} {r : Run ℚ}

/-- Between two runs nothing comes of a signal. -/
theorem next_of_rest (hr : t.consumer.run = none) (s : Signal Unit) : t.next (.signal s) = t := by
  have hs : t.consumer.step (s.stamp t.now) = (t.consumer,[]) := by simp only [Consumer.step,hr]
  have hx : (t.consumer.sight (.signal (s.stamp t.now))).reading = [] := by
    simp only [Consumer.sight,hr]; rfl
  have he : enters t.consumer t.consumer s = false := by simp [enters,Consumer.waits,hr]
  have ha : recounts t.consumer t.consumer t.now = false := by simp [recounts,hr]
  simp [next,hs,hx,he,ha]

theorem entered_next (t : Timed) (s : Signal Unit) : (t.next (.signal s)).entered =
    if enters t.consumer (t.next (.signal s)).consumer s then t.now else t.entered := rfl

theorem anchor_next (t : Timed) (s : Signal Unit) : (t.next (.signal s)).anchor =
    if recounts t.consumer (t.next (.signal s)).consumer t.now then t.now else t.anchor := rfl

theorem enters_of_run {c d : Consumer ℚ} {r r' : Run ℚ} (hr : c.run = some r) (hr' : d.run = some r')
    (s : Signal Unit) : enters c d s = (r'.phase.isWait && (s.isWake || !r.phase.isWait)) := by
  rw [enters,Consumer.waits_of_run hr,Consumer.waits_of_run hr']

theorem recounts_of_run {c d : Consumer ℚ} {r r' : Run ℚ} (hr : c.run = some r) (hr' : d.run = some r')
    (now : ℚ) :
    recounts c d now = (decide (r.ticker.next ≠ r'.ticker.next) && r.ticker.isLost now) := by
  rw [recounts,hr,hr']

/-- A signal is a move of the consumer. -/
theorem move_next (t : Timed) (s : Signal Unit) :
    Move t.consumer (t.consumer.sight (.signal (s.stamp t.now))) (t.next (.signal s)).consumer
      (taken (t.consumer.step (s.stamp t.now)).2) (asked (t.consumer.step (s.stamp t.now)).2) :=
  t.consumer.move_react (fun _ => 0) (.signal (s.stamp t.now))

/-- A signal treats the timer in one of the four ways. -/
theorem pace_next (hr : t.consumer.run = some r) (s : Signal Unit) :
    Pace t.now s r (t.next (.signal s)).consumer :=
  Consumer.pace_step hr s t.now

/-- What is in the buffer after a signal was there before, or comes in with it. -/
theorem mem_since_next {s : Signal Unit} {u : ℚ} (hu : u ∈ (t.next (.signal s)).since) :
    u ∈ t.since ∨ u = t.now := by
  rcases List.mem_append.mp (List.mem_of_mem_drop hu) with hu | hu
  · exact .inl hu
  · obtain ⟨g,-,rfl⟩ := List.mem_map.mp hu
    exact .inr rfl

/-- There is an instant for each delivery of the buffer. -/
theorem counted_next (h : t.since.length = t.consumer.buffer.size) (s : Signal Unit) :
    (t.next (.signal s)).since.length = (t.next (.signal s)).consumer.buffer.size := by
  have kept := congrArg List.length (t.move_next s).conserves
  rw [List.length_append,List.length_append] at kept
  simp only [next,List.length_drop,List.length_append,List.length_map,h,Buffer.size] at kept ⊢
  omega

theorem since_of_empty (h : t.since.length = t.consumer.buffer.size)
    (empty : t.consumer.buffer.items = []) : t.since = [] := by
  rw [Buffer.size,empty] at h
  exact List.eq_nil_of_length_eq_zero h

/-- A run that is in its loop was so before. -/
theorem looping_next {s : Signal Unit} {r' : Run ℚ} (hr : t.consumer.run = some r)
    (hr' : (t.next (.signal s)).consumer.run = some r') (hl : r'.phase.isLoop = true) :
    r.phase.isLoop = true := by
  rw [← Consumer.looping_of_run hr'] at hl
  rw [← Consumer.looping_of_run hr]
  exact (t.move_next s).looping hr hl

/-- A run begins to wait with a timer that is due an interval later, unless it does not begin at all. -/
theorem launch_cases {instant : Float → ℚ} {c : Consumer ℚ} (hc : c.run = none) {wait : Float}
    (hw : c.policy.wait.toFloat = .ok wait) (pos : 0 < instant wait) (subscription : Except Fault Bool)
    (t₀ : ℚ) : let t := launch instant c subscription t₀
    t.consumer.buffer = c.buffer ∧ t.since = c.buffer.items.map (fun _ => t₀) ∧
      (t.consumer.run = none ∨ ∃ r, t.consumer.run = some r ∧ r.phase = .waiting ∧
        r.ticker = .start (instant wait) t₀) := by
  have begun : c.react instant (.begin subscription t₀) = c.begin instant subscription t₀ := by
    simp only [Consumer.react,hc,Option.isSome_none,Bool.false_eq_true,if_false]
  cases subscription with
  | error f =>
    simp only [launch,begun,Consumer.begin,hw]
    exact ⟨rfl,rfl,.inl rfl⟩
  | ok closable =>
    have early : (Ticker.start (instant wait) t₀).isDue t₀ = false := by
      simp [Ticker.isDue,Ticker.start,pos]
    have waits : Consumer.turn { c with standing := .idle, ending := none }
        ⟨.start (instant wait) t₀,.idle,closable,.waiting⟩ t₀ =
        (Consumer.suspend { c with standing := .idle, ending := none }
          ⟨.start (instant wait) t₀,.pending,closable,.waiting⟩,[.receive]) := by
      simp only [Consumer.turn,early]
      rfl
    simp only [launch,begun,Consumer.begin,hw,Consumer.start,waits]
    exact ⟨rfl,rfl,.inr ⟨_,rfl,rfl,rfl⟩⟩

end Timed
end Baler
