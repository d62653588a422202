import Baler.Text.Quoted

/-!
What can go wrong. A fault has a kind, which decides who handles it, and a text. Ordinary faults
may be absorbed; a cancellation, an interrupt or an exit ends whatever it meets, and the last two
end the whole program.
-/
namespace Baler

/-- The kinds of faults. The broker's own kinds carry the name under which it reports them. -/
inductive Fault.Kind
  /-- A task was told to stop. -/
  | cancelled
  /-- The user interrupted the program. -/
  | interrupt
  /-- The program is being left. -/
  | exit
  /-- A routine is being left, or ends in a way of its own. -/
  | abrupt (name : String)
  /-- The delivery stream failed. -/
  | stream
  /-- The broker channel refused an ack or a nack. -/
  | settlement
  /-- Another failure of the broker channel. -/
  | channel
  /-- A strategy answered with something that is no outcome. -/
  | outcome
  /-- The broker reports an error of the protocol. -/
  | protocol (name : String)
  /-- The broker's channel cannot be used in its state. -/
  | unusable
  /-- The network connection failed. -/
  | connection (name : String)
  /-- An iteration has no further item. -/
  | exhausted
  /-- A stream has no further item. -/
  | ended
  | value
  | type
  | runtime
  | overflow
  | index
  | key
  | attribute
  /-- Any other ordinary fault. -/
  | other (name : String)
deriving DecidableEq, Repr

/-- Something that went wrong. -/
structure Fault where
  kind : Fault.Kind
  text : String
deriving DecidableEq, Repr

namespace Fault

/-- The fault of a task that was told to stop. -/
def cancellation : Fault := ⟨.cancelled, ""⟩

/-- A fault with the given message: a missing key is shown between quotes. -/
def make (kind : Kind) (message : String) : Fault :=
  match kind with
  | .key => ⟨.key, Text.quote message⟩
  | k => ⟨k, message⟩

/-- Whether a fault may be absorbed. -/
def isOrdinary (f : Fault) : Bool :=
  match f.kind with
  | .cancelled | .interrupt | .exit | .abrupt _ => false
  | _ => true

/-- Whether a fault ends the whole program, wherever it arises. -/
def endsProgram (f : Fault) : Bool := f.kind = .interrupt ∨ f.kind = .exit

/-- Whether a fault tells that the broker line is lost. -/
def isLineFailure (f : Fault) : Bool :=
  match f.kind with
  | .protocol _ | .unusable | .connection _ => true
  | _ => false

/-- A fault as it leaves a call: an iteration's end cannot be told by a call. -/
def leavingCall (f : Fault) : Fault :=
  match f.kind with
  | .exhausted => ⟨.runtime, "coroutine raised StopIteration"⟩
  | _ => f

/-- A fault as it leaves a stream: neither an iteration's nor a stream's end can be told by a
fault. -/
def leavingStream (f : Fault) : Fault :=
  match f.kind with
  | .exhausted => ⟨.runtime, "async generator raised StopIteration"⟩
  | .ended => ⟨.runtime, "async generator raised StopAsyncIteration"⟩
  | _ => f

theorem isOrdinary_of_isLineFailure {f : Fault} (h : f.isLineFailure = true) :
    f.isOrdinary = true := by
  rcases f with ⟨kind, text⟩
  cases kind <;> simp_all [isLineFailure, isOrdinary]

@[simp] theorem isOrdinary_leavingCall (f : Fault) : f.leavingCall.isOrdinary = f.isOrdinary := by
  rcases f with ⟨kind, text⟩
  cases kind <;> rfl

end Fault
end Baler
