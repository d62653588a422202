import Baler.Amqp.Address
import Baler.Amqp.Pending
import Baler.Amqp.Wire
import Baler.Settlement

/-!
The broker channel: one connection and one channel on it, with the deliveries that are not settled
yet. It connects once, does not retry, and closes the channel before the connection. The texts of its
faults show a delivery id in full: one with too many digits to be written down is no tag of a line.
-/
namespace Baler.Amqp

/-- What a channel reports about itself. -/
inductive Stage
  | disconnected
  | connecting
  | connected
  | ready
  | closing
  | closed
deriving DecidableEq, Repr

/-- The name of a stage. -/
def Stage.name : Stage → String
  | .disconnected => "DISCONNECTED"
  | .connecting => "CONNECTING"
  | .connected => "CONNECTED"
  | .ready => "READY"
  | .closing => "CLOSING"
  | .closed => "CLOSED"

/-- A broker channel: what it holds of the line, and the unsettled deliveries. -/
structure Channel where
  endpoint : Endpoint
  stage : Stage
  hasConnection : Bool
  hasChannel : Bool
  pending : Pending Delivery

namespace Channel

/-- A channel that has not been connected. -/
def fresh (e : Endpoint) : Channel := ⟨e, .disconnected, false, false, .empty⟩

/-- What a channel has become, what it did, and the fault with which it ends. -/
structure Result where
  channel : Channel
  acts : List Act
  fault : Option Fault

/-- Close the connection if it is held; an ordinary fault is logged. -/
def closeConnection (c : Channel) (replies : Replies) : Result :=
  if !c.hasConnection then ⟨c, [], none⟩
  else match replies.ofCall .closeConnection with
    | none => ⟨{ c with hasConnection := false }, [.call .closeConnection], none⟩
    | some f =>
      if f.isOrdinary then
        ⟨{ c with hasConnection := false },
          [.call .closeConnection, .warn s!"connection close failed: {f.text}"], none⟩
      else ⟨c, [.call .closeConnection], some f⟩

/-- Close the channel if it is held, then the connection; ordinary faults are logged. -/
def release (c : Channel) (replies : Replies) : Result :=
  if !c.hasChannel then c.closeConnection replies
  else match replies.ofCall .closeChannel with
    | none =>
      let r := { c with hasChannel := false }.closeConnection replies
      { r with acts := .call .closeChannel :: r.acts }
    | some f =>
      if f.isOrdinary then
        let r := { c with hasChannel := false }.closeConnection replies
        { r with acts := .call .closeChannel ::
            .warn s!"channel close failed (continuing to close connection): {f.text}" :: r.acts }
      else ⟨c, [.call .closeChannel], some f⟩

/-- Give up setting the channel up: what is held is released and the fault is passed on, unless
the release itself is cut short. -/
def abandonSetup (c : Channel) (replies : Replies) (f : Fault) : Result :=
  if !f.isOrdinary then ⟨c, [], some f⟩
  else
    let r := c.release replies
    let acts := .warn s!"rmq channel setup failed: {f.text}" :: r.acts
    match r.fault with
    | some g => ⟨r.channel, acts, some g⟩
    | none => ⟨{ r.channel with stage := .disconnected }, acts, some f⟩

/-- Open a channel on the connection and limit the deliveries under way. -/
def setUp (c : Channel) (replies : Replies) : Result :=
  match replies.ofCall .openChannel with
  | some f =>
    let r := c.abandonSetup replies f
    { r with acts := .call .openChannel :: r.acts }
  | none =>
    let c := { c with hasChannel := true }
    let asked : List Act := [.call .openChannel, .call (.qos c.endpoint.prefetch)]
    match replies.ofCall .qos with
    | some f =>
      let r := c.abandonSetup replies f
      { r with acts := asked ++ r.acts }
    | none => ⟨{ c with stage := .ready }, asked, none⟩

/-- Call the broker at its address, with the fault that comes of it. A broker without an address is
not called. -/
def dial (e : Endpoint) (replies : Replies) : List Act × Option Fault :=
  match e.address? with
  | .error f => ([], some f)
  | .ok address => ([.call (.connect address)], replies.ofCall .connect)

/-- Connect and set the channel up. -/
def connect (c : Channel) (replies : Replies) : Result :=
  let (called, fault) := dial c.endpoint replies
  let asked : List Act := .event (.connecting c.endpoint.host c.endpoint.port) :: called
  match fault with
  | some f =>
    if f.isOrdinary then
      ⟨{ c with stage := .disconnected }, asked ++ [.warn s!"rmq connect failed: {f.text}"], some f⟩
    else ⟨{ c with stage := .connecting }, asked, some f⟩
  | none =>
    let r := { c with stage := .connected, hasConnection := true }.setUp replies
    { r with acts := asked ++ .event .connected :: r.acts }

/-- Forget the unsettled deliveries and release the line. -/
def close (c : Channel) (replies : Replies) : Result :=
  let r := { c with stage := .closing, pending := .empty }.release replies
  let acts := .event (.closing c.pending.size) :: r.acts
  match r.fault with
  | some f => ⟨r.channel, acts, some f⟩
  | none => ⟨{ r.channel with stage := .closed }, acts, none⟩

/-- The fault of settling a delivery that is not pending. -/
def unknownDelivery (id : Int) : Fault :=
  ⟨.settlement, s!"unknown or already settled delivery {id}"⟩

/-- Take a delivery out to settle it. -/
def take? (c : Channel) (id : Int) (cumulative : Bool) : Except Fault (Channel × Delivery) :=
  match c.pending.settle? id cumulative with
  | some (pending, d) => .ok ({ c with pending }, d)
  | none => .error (unknownDelivery id)

/-- The fault of an ack or a nack that the broker refuses. -/
def refusal (verb : String) (id : Int) (f : Fault) : Fault :=
  let f := f.leavingCall
  if f.isOrdinary then ⟨.settlement, s!"{verb} failed for delivery {id}: {f.text}"⟩ else f

/-- The call over the line that settles a delivery. -/
def onLine (d : Delivery) : Settlement.Call → Call
  | .ack _ cumulative => .ack d cumulative
  | .nack _ requeue => .nack d requeue

/-- Settle the delivery that a call names, by one call over the line; `reply` is how the broker
answers for each delivery. What is taken out stays out whatever the broker answers. -/
def settle (c : Channel) (call : Settlement.Call) (reply : Delivery → Option Fault) : Result :=
  match c.take? call.id call.isCumulative with
  | .error f => ⟨c, [], some f⟩
  | .ok (c, d) =>
    ⟨c, [.call (onLine d call)], (reply d).map (refusal call.verdict.name call.id)⟩

/-- Remember a delivery until it is settled. -/
def track (c : Channel) (id : Int) (d : Delivery) : Channel :=
  { c with pending := c.pending.track id d }

section

variable {c : Channel} {call : Settlement.Call}

theorem settle_of_missing (h : c.pending.find? call.id = none) (reply : Delivery → Option Fault) :
    c.settle call reply = ⟨c, [], some (unknownDelivery call.id)⟩ := by
  simp [settle, take?, Pending.settle?_eq_none h]

theorem settle_of_taken {q : Pending Delivery} {d : Delivery}
    (h : c.pending.settle? call.id call.isCumulative = some (q, d)) (reply : Delivery → Option Fault) :
    c.settle call reply = ⟨{ c with pending := q }, [.call (onLine d call)],
      (reply d).map (refusal call.verdict.name call.id)⟩ := by
  simp [settle, take?, h]

end

end Channel
end Baler.Amqp
