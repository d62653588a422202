import Baler.Amqp.Delivery
import Baler.Log.Record

/-!
The broker line as the channel sees it: the calls that go out over it, and the places where it can
refuse one.
-/
namespace Baler.Amqp

/-- A place where the broker can refuse. -/
inductive Site
  | connect
  | openChannel
  | qos
  | getQueue
  | iterator
  | enter
  | leave
  | closeChannel
  | closeConnection
deriving DecidableEq, Repr

/-- How the broker replies at each place: with a fault, or not. -/
abbrev Replies := Site → Option Fault

/-- A reply that comes back through a call. -/
def Replies.ofCall (r : Replies) (s : Site) : Option Fault := (r s).map Fault.leavingCall

/-- A call over the line. -/
inductive Call
  | connect (address : String)
  | openChannel
  | qos (count : Int)
  | getQueue (name : String)
  | iterator (consumerTag : Option String)
  | leave
  | ack (d : Delivery) (multiple : Bool)
  | nack (d : Delivery) (requeue : Bool)
  | closeChannel
  | closeConnection

/-- The delivery that a call settles. -/
def Call.delivery? : Call → Option Delivery
  | .ack d _ => some d
  | .nack d _ => some d
  | _ => none

/-- What a channel does: a call over the line, or a record of the log. -/
inductive Act
  | call (c : Call)
  | log (r : Log.Record)

/-- An event as an act. -/
def Act.event (e : Log.Event) : Act := .log (.event e)

/-- A warning as an act. -/
def Act.warn (text : String) : Act := .log (.note .warning text)

/-- The delivery that an act settles. -/
def Act.delivery? : Act → Option Delivery
  | .call c => c.delivery?
  | .log _ => none

/-- The deliveries that acts settle, in order. -/
def settledBy (acts : List Act) : List Delivery := acts.filterMap Act.delivery?

@[simp] theorem settledBy_nil : settledBy [] = [] := rfl

end Baler.Amqp
