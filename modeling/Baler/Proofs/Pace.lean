import Baler.Proofs.Accounting

/-! What the instants of its signals do to the timer of a run. The loop looks at its timer when it takes
a turn; every other signal leaves the timer as it is, or ends the loop. -/
namespace Baler

variable {τ : Type}

/-- A signal that comes at an instant. -/
def Signal.stamp (now : τ) : Signal Unit → Signal τ
  | .received got => .received got
  | .wake _ => .wake now
  | .replied reply _ => .replied reply now
  | .receiveStopped => .receiveStopped
  | .closed fault => .closed fault
  | .cancel => .cancel

/-- Whether a signal ends a wait. -/
def Signal.isWake : Signal τ → Bool
  | .wake _ => true
  | _ => false

/-- Whether a run waits for a delivery or its timer. -/
def Phase.isWait : Phase → Bool
  | .waiting => true
  | _ => false

/-- Whether a consumer waits for a delivery or its timer. -/
def Consumer.waits (c : Consumer τ) : Bool := c.run.any (·.phase.isWait)

theorem Consumer.waits_of_run {c : Consumer τ} {r : Run τ} (hr : c.run = some r) :
    c.waits = r.phase.isWait := by
  rw [waits,hr]; rfl

theorem Consumer.run_of_waits {c : Consumer τ} (h : c.waits = true) :
    ∃ r, c.run = some r ∧ r.phase = .waiting := by
  obtain ⟨r,hr,hw⟩ : ∃ r, c.run = some r ∧ r.phase.isWait = true := by
    simpa [waits,Option.any_eq_true] using h
  refine ⟨r,hr,?_⟩
  cases hp : r.phase <;> first | rfl | simp [hp,Phase.isWait] at hw

theorem Consumer.looping_of_waits {c : Consumer τ} (h : c.waits = true) : c.looping = true := by
  obtain ⟨r,hr,hp⟩ := run_of_waits h
  rw [looping_of_run hr,hp]
  rfl

section

variable [Add τ] [LE τ] [DecidableLE τ]

/-- What a signal at an instant does to a run and its timer: nothing; or a flush begins or goes on; or
the loop takes a turn; or it is left. -/
inductive Pace (now : τ) (s : Signal Unit) (r : Run τ) : Consumer τ → Prop
  | rests {d r'} (hd : d.run = some r') (ticker : r'.ticker = r.ticker) (phase : r'.phase = r.phase)
      (unwoken : s.isWake = true → r.phase.isWait = false) : Pace now s r d
  | flushes {d r'} (hd : d.run = some r') (ticker : r'.ticker = r.ticker)
      (phase : r'.phase.isFlush = true) : Pace now s r d
  | turns {e d r' batches} (go : Turned now e r' d batches) (ticker : r'.ticker = r.ticker)
      (woken : s.isWake = true ∨ r.phase.isWait = false) : Pace now s r d
  | leaves {d} (outside : d.looping = false) : Pace now s r d

namespace Consumer

variable {c : Consumer τ} {r : Run τ} {now : τ} {s : Signal Unit}

theorem pace_turn (c : Consumer τ) {r' : Run τ} (ticker : r'.ticker = r.ticker)
    (woken : s.isWake = true ∨ r.phase.isWait = false) : Pace now s r (c.turn r' now).1 :=
  .turns (c.turned_turn r' now).1 ticker woken

theorem pace_accept (hs : s.isWake = true) (h : Handle) :
    Pace now s r (c.accept { r with receive := .idle } h now).1 := by
  cases hf : (c.buffer.add h).isReady with
  | true =>
    simp only [accept,hf,if_true]
    exact .flushes rfl rfl rfl
  | false =>
    simp only [accept,hf,Bool.false_eq_true,if_false]
    exact pace_turn _ rfl (.inl hs)

theorem pace_read (hs : s.isWake = true) (got : Reception) : Pace now s r (c.read r got now).1 := by
  cases got with
  | delivery h => exact pace_accept hs h
  | ended => exact .leaves (c.leaves_leave { r with receive := .idle } .returned).1.outside
  | failed f =>
    exact .leaves (c.leaves_leave { r with receive := .idle } (.raised (streamFault f))).1.outside

/-- After a flush the loop takes a turn unless it is left. -/
theorem pace_flushed (hp : r.phase.isWait = false) (trigger : Trigger) (size : Nat)
    (failure : Option Fault) : Pace now s r (c.flushed r trigger size failure now).1 := by
  cases failure with
  | none => exact pace_turn _ rfl (.inr hp)
  | some f =>
    simp only [flushed]
    split
    · exact pace_turn _ rfl (.inr hp)
    · exact .leaves (leaves_leave { c with flushes := c.flushes + 1 } r (.raised f)).1.outside

theorem pace_proceed (hp : r.phase.isWait = false) (trigger : Trigger) (size : Nat) (work : Processing)
    (reply : Reply) : Pace now s r (c.proceed r trigger size work reply now).1 := by
  unfold proceed
  cases hw : (c.processor.resume work reply).2.2 with
  | busy w =>
    simp only [hw]
    exact .flushes rfl rfl rfl
  | finished failure =>
    simp only [hw]
    exact pace_flushed hp trigger size failure

theorem pace_wake (hr : c.run = some r) : Pace now (.wake ()) r (c.step (.wake now)).1 := by
  cases hp : r.phase with
  | waiting =>
    cases hq : r.receive with
    | ready got =>
      have hs : c.step (.wake now) = c.read r got now := by simp only [step,hr,hp,hq]
      rw [hs]
      exact pace_read rfl got
    | _ =>
      have hs : c.step (.wake now) = c.turn r now := by simp only [step,hr,hp,hq]
      rw [hs]
      exact pace_turn c rfl (.inl rfl)
  | _ =>
    simp only [step,hr,hp]
    exact .rests hr rfl rfl fun _ => by rw [hp]; rfl

theorem pace_replied (hr : c.run = some r) (reply : Reply) :
    Pace now (.replied reply ()) r (c.step (.replied reply now)).1 := by
  have rest : c.step (.replied reply now) = (c,[]) →
      Pace now (.replied reply ()) r (c.step (.replied reply now)).1 := by
    intro hs
    rw [hs]
    exact .rests hr rfl rfl fun h => by cases h
  cases hp : r.phase with
  | flushing trigger size work =>
    cases hf : work.takes reply with
    | true =>
      have hs : c.step (.replied reply now) = c.proceed r trigger size work reply now := by
        simp only [step,hr,hp,hf,if_true]
      rw [hs]
      exact pace_proceed (by rw [hp]; rfl) trigger size work reply
    | false => exact rest (by simp only [step,hr,hp,hf,Bool.false_eq_true,if_false])
  | _ => exact rest (by simp only [step,hr,hp])

theorem pace_received (hr : c.run = some r) (got : Reception) :
    Pace now (.received got) r (c.step (.received got)).1 := by
  cases hq : r.receive with
  | pending =>
    simp only [step,hr,hq]
    exact .rests rfl rfl rfl fun h => by cases h
  | _ =>
    simp only [step,hr,hq]
    exact .rests hr rfl rfl fun h => by cases h

/-- The cleanup of a run does not come back to the loop, and a cancellation leaves it. -/
theorem pace_cleanup (hr : c.run = some r) {s : Signal Unit}
    (hs : s = .receiveStopped ∨ (∃ fault, s = .closed fault) ∨ s = .cancel) :
    Pace now s r (c.step (s.stamp now)).1 := by
  have rest : c.step (s.stamp now) = (c,[]) → Pace now s r (c.step (s.stamp now)).1 := by
    intro hn
    rw [hn]
    exact .rests hr rfl rfl (by rcases hs with rfl | ⟨fault,rfl⟩ | rfl <;> intro h <;> cases h)
  rcases hs with rfl | ⟨fault,rfl⟩ | rfl
  · cases hp : r.phase with
    | stoppingReceive exit =>
      have hn : c.step .receiveStopped = c.closeStream { r with receive := .idle } exit := by
        simp only [step,hr,hp]
      exact .leaves (hn ▸ (c.leaves_closeStream { r with receive := .idle } exit).1.outside)
    | _ => exact rest (by simp only [Signal.stamp,step,hr,hp])
  · cases hp : r.phase with
    | closingStream exit =>
      have hn : c.step (.closed fault) = c.closed exit fault := by simp only [step,hr,hp]
      exact .leaves (hn ▸ (c.leaves_closed exit fault .idle).1.outside)
    | _ => exact rest (by simp only [Signal.stamp,step,hr,hp])
  · cases hp : r.phase with
    | waiting =>
      have hn : c.step .cancel = c.leave r (.raised .cancellation) := by simp only [step,hr,hp]
      exact .leaves (hn ▸ (c.leaves_leave r (.raised .cancellation)).1.outside)
    | spinning => exact rest (by simp only [Signal.stamp,step,hr,hp])
    | flushing trigger size work =>
      have hn : c.step .cancel =
          { c with flushes := c.flushes + 1 }.leave r (.raised .cancellation) := by
        simp only [step,hr,hp]
      exact .leaves (hn ▸ (leaves_leave { c with flushes := c.flushes + 1 } r
        (.raised .cancellation)).1.outside)
    | _ =>
      have hn : c.step .cancel = (c.halt (.raised .cancellation),[]) := by simp only [step,hr,hp]
      exact .leaves (hn ▸ (c.leaves_halt (.raised .cancellation) .idle).outside)

/-- Whatever a run is signalled at an instant, its timer is treated in one of the four ways. -/
theorem pace_step (hr : c.run = some r) (s : Signal Unit) (now : τ) :
    Pace now s r (c.step (s.stamp now)).1 := by
  cases s with
  | received got => exact pace_received hr got
  | wake u => exact pace_wake hr
  | replied reply u => exact pace_replied hr reply
  | receiveStopped => exact pace_cleanup hr (.inl rfl)
  | closed fault => exact pace_cleanup hr (.inr (.inl ⟨fault,rfl⟩))
  | cancel => exact pace_cleanup hr (.inr (.inr rfl))

end Consumer

/-- A loop leaves its timer as it is, or finds it due and takes one tick. -/
theorem Pace.ticker {now : τ} {s : Signal Unit} {r r' : Run τ} {d : Consumer τ} (p : Pace now s r d)
    (hd : d.run = some r') (hl : r'.phase.isLoop = true) : r'.ticker = r.ticker ∨
      r.ticker.isDue now = true ∧ r'.ticker = r.ticker.advance now := by
  cases p with
  | rests hr ticker phase unwoken =>
    obtain rfl := Option.some.inj (hd.symm.trans hr)
    exact .inl ticker
  | flushes hr ticker phase =>
    obtain rfl := Option.some.inj (hd.symm.trans hr)
    exact .inl ticker
  | turns go ticker woken =>
    cases go with
    | early early => cases hd; exact .inl ticker
    | idles due empty later => cases hd; exact .inr ⟨ticker ▸ due,ticker ▸ rfl⟩
    | spins due empty again => cases hd; exact .inr ⟨ticker ▸ due,ticker ▸ rfl⟩
    | flushes due filled => cases hd; exact .inr ⟨ticker ▸ due,ticker ▸ rfl⟩
  | leaves outside =>
    rw [Consumer.looping_of_run hd,hl] at outside
    cases outside

end
end Baler
