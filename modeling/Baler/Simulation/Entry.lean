import Baler.Assembly

/-!
The journal of a simulation: the calls that reached a double, and the records of the log, in order.
-/
namespace Baler.Simulation

/-- A call that a double has seen. -/
inductive Cue
  | strategy (ids : List Int)
  | subscribe (queue : String)
  | streamClosed
  | settle (c : Settlement.Call)
  | line (c : Amqp.Call)

/-- An entry of the journal. -/
inductive Entry
  | cue (c : Cue)
  | log (r : Log.Record)

/-- The entry for an act of a broker channel. -/
def Entry.ofAct : Amqp.Act → Entry
  | .call c => .cue (.line c)
  | .log r => .log r

/-- The call of an entry. -/
def Entry.cue? : Entry → Option Cue
  | .cue c => some c
  | .log _ => none

/-- The record of an entry. -/
def Entry.record? : Entry → Option Log.Record
  | .cue _ => none
  | .log r => some r

/-- An item in the queue of a double: a delivery, nothing in the place of one, an end, a fault, a
pause, or a shutdown request. -/
inductive Item (α : Type)
  | delivery (a : α)
  | nothing
  | ended
  | failed (f : Fault)
  | pause (seconds : Float)
  | shutdown

end Baler.Simulation
