/-!
The timer of a consumer. It is due at its next instant; when it has been due, the next instant is
one interval later, or one interval from now if that has passed too.
-/
namespace Baler

/-- A timer that is due again and again. -/
structure Ticker (τ : Type) where
  interval : τ
  next : τ
deriving DecidableEq, Repr

namespace Ticker

variable {τ : Type} [Add τ] [LE τ] [DecidableLE τ]

/-- The timer that is first due one interval from now. -/
def start (interval now : τ) : Ticker τ := ⟨interval, now + interval⟩

/-- Whether the timer is due. -/
def isDue (t : Ticker τ) (now : τ) : Bool := t.next ≤ now

/-- The timer after it has been due. -/
def advance (t : Ticker τ) (now : τ) : Ticker τ :=
  let next := t.next + t.interval
  if next ≤ now then { t with next := now + t.interval } else { t with next }

@[simp] theorem interval_advance (t : Ticker τ) (now : τ) :
    (t.advance now).interval = t.interval := by
  unfold advance; dsimp only; split <;> rfl

theorem next_advance (t : Ticker τ) (now : τ) : (t.advance now).next =
    if t.next + t.interval ≤ now then now + t.interval else t.next + t.interval := by
  unfold advance; dsimp only; split <;> rfl

end Ticker
end Baler
