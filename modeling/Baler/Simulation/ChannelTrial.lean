import Baler.Simulation.Line

/-!
Trials of one broker channel on a broker line. A call that would have to wait is cut short and
counts as blocked; a stream that was asked in vain is closed.
-/
namespace Baler.Simulation

/-- A broker channel with its streams, in order of subscription. -/
structure ChannelTrial where
  channel : Amqp.Channel
  streams : List (String × Amqp.Stream)
  line : Line

/-- A command of a channel trial. -/
inductive ChannelTrial.Command
  | connect
  | close
  | subscribe (queue : String)
  | next (stream : Int)
  | closeStream (stream : Int)
  | settle (c : Settlement.Call)
  | set (site : Amqp.Site) (fault : Option Fault)
  | put (items : List (Item Parcel))

/-- What a command answers. -/
inductive ChannelTrial.Response
  | silent
  | stream (number : Nat)
  | handle (h : Handle)
  | ended
  | blocked
  | failed (f : Fault)

namespace ChannelTrial

/-- The place of a stream; negative numbers count from the end. -/
def place? (t : ChannelTrial) (i : Int) : Option Nat :=
  let j := if i < 0 then i + t.streams.length else i
  if 0 ≤ j ∧ j < t.streams.length then some j.toNat else none

/-- The reader of a stream. -/
def reader (t : ChannelTrial) (queue : String) (stream : Amqp.Stream) : Reader :=
  ⟨t.channel, queue, stream, t.line⟩

/-- Take back what a reader has changed. -/
def restore (t : ChannelTrial) (i : Nat) (r : Reader) : ChannelTrial where
  channel := r.channel
  streams := t.streams.set i (r.queue, r.stream)
  line := r.line

/-- The answer for a fault or none. -/
def Response.ofFault : Option Fault → Response
  | some f => .failed f
  | none => .silent

/-- The fault of asking for a stream that there is not. -/
def noStream : Response := .failed ⟨.index, "list index out of range"⟩

/-- Ask a stream for its next delivery. -/
def next (t : ChannelTrial) (i : Nat) (queue : String) (stream : Amqp.Stream) :
    ChannelTrial × List Entry × Response :=
  let p := (t.reader queue stream).poll
  match p.finding with
  | .got (.delivery h) => (t.restore i p.world, p.entries, .handle h)
  | .got .ended => (t.restore i p.world, p.entries, .ended)
  | .got (.failed f) => (t.restore i p.world, p.entries, .failed f)
  | _ =>
    let (r, entries, _) := p.world.stop
    (t.restore i r, p.entries ++ entries, .blocked)

/-- Carry out a command: the trial afterwards, the journal of the command and its answer. -/
def run (t : ChannelTrial) : Command → ChannelTrial × List Entry × Response
  | .connect =>
    let r := t.channel.connect t.line.replies
    ({ t with channel := r.channel }, r.acts.map .ofAct, .ofFault r.fault)
  | .close =>
    let r := t.channel.close t.line.replies
    ({ t with channel := r.channel }, r.acts.map .ofAct, .ofFault r.fault)
  | .subscribe queue =>
    ({ t with streams := t.streams ++ [(queue, .fresh)] }, [], .stream t.streams.length)
  | .next number =>
    match (t.place? number).bind fun i => t.streams[i]?.map fun e => (i, e) with
    | none => (t, [], noStream)
    | some (i, queue, stream) => t.next i queue stream
  | .closeStream number =>
    match (t.place? number).bind fun i => t.streams[i]?.map fun e => (i, e) with
    | none => (t, [], noStream)
    | some (i, queue, stream) =>
      let (r, entries, fault) := (t.reader queue stream).close
      (t.restore i r, entries, .ofFault fault)
  | .settle c =>
    let r := (t.reader "" .fresh).settle c
    let t := { t with channel := r.world.channel }
    (t, r.entries, if 0 < r.delay then .blocked else .ofFault r.fault)
  | .set site fault => ({ t with line := t.line.set site fault }, [], .silent)
  | .put items => ({ t with line := t.line.putAll items }, [], .silent)

end ChannelTrial
end Baler.Simulation
