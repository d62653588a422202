import Baler.Simulation.Recorder

/-!
A broker line with a prescribed reply at each place. All streams read one queue of deliveries, each
of which prescribes how its own ack and nack are answered.
-/
namespace Baler.Simulation

/-- A delivery with the replies to its ack and its nack and the time that they take. -/
structure Parcel where
  delivery : Amqp.Delivery
  ackFault : Option Fault
  nackFault : Option Fault
  delay : Float

/-- How the broker answers when a parcel is settled. -/
def Parcel.fault? (p : Parcel) : Settlement.Verdict → Option Fault
  | .ack => p.ackFault
  | .nack => p.nackFault

/-- The broker line; every parcel that was put on it is kept. -/
structure Line where
  faults : List (Amqp.Site × Fault)
  queue : List (Item Parcel)
  sent : List Parcel

/-- A broker channel with one of its streams, on a line. -/
structure Reader where
  channel : Amqp.Channel
  queue : String
  stream : Amqp.Stream
  line : Line

namespace Line

/-- A line without deliveries. -/
def quiet (faults : List (Amqp.Site × Fault)) : Line := ⟨faults, [], []⟩

/-- How the line replies. -/
def replies (l : Line) : Amqp.Replies := fun s => l.faults.lookup s

/-- Change the reply at a place. -/
def set (l : Line) (s : Amqp.Site) (f : Option Fault) : Line :=
  let others := l.faults.filter fun e => e.1 ≠ s
  { l with faults := match f with
    | some f => (s, f) :: others
    | none => others }

/-- Put an item into the queue. A parcel gets the next serial number. -/
def put (l : Line) (item : Item Parcel) : Line :=
  match item with
  | .delivery p =>
    let p := { p with delivery := { p.delivery with serial := l.sent.length } }
    { l with queue := l.queue ++ [.delivery p], sent := l.sent ++ [p] }
  | item => { l with queue := l.queue ++ [item] }

/-- Put items into the queue. -/
def putAll (l : Line) (items : List (Item Parcel)) : Line := items.foldl put l

end Line

namespace Reader

/-- The stream ends for the given cause; a reader that asked for a delivery learns how. -/
def leave (r : Reader) (queue : List (Item Parcel)) (cause : Option Fault) : Poll Reader :=
  let (acts, fault) := Amqp.Stream.leave r.queue r.line.replies cause
  ⟨{ r with stream := .done, line := { r.line with queue } }, acts.map .ofAct,
    .got (Amqp.Stream.reception fault), false⟩

/-- Read the queue up to the next delivery, the end of the stream or a pause. -/
def drain (r : Reader) (rang : Bool) : List (Item Parcel) → Poll Reader
  | [] => ⟨{ r with line := { r.line with queue := [] } }, [], .blocked, rang⟩
  | .delivery p :: rest =>
    match Amqp.Stream.takeIn r.channel p.delivery with
    | .ok (channel, h) =>
      ⟨{ r with channel, line := { r.line with queue := rest } }, [], .got (.delivery h), rang⟩
    | .error f => { r.leave rest (some f) with rang }
  | .ended :: rest => { r.leave rest none with rang }
  | .failed f :: rest =>
    { r.leave rest (if f.kind = .ended then none else some f.leavingCall) with rang }
  | .pause seconds :: rest =>
    ⟨{ r with line := { r.line with queue := rest } }, [], .pause seconds, rang⟩
  | .shutdown :: rest => drain r true rest
  | .nothing :: rest => drain r rang rest

/-- Ask for the next delivery. -/
def poll (r : Reader) : Poll Reader :=
  match r.stream with
  | .done => ⟨r, [], .got .ended, false⟩
  | .reading => drain r false r.line.queue
  | .fresh =>
    let (acts, fault) := Amqp.Stream.subscribe r.channel r.queue r.line.replies
    let entries := acts.map Entry.ofAct
    match fault with
    | some f => ⟨{ r with stream := .done }, entries, .got (.failed f), false⟩
    | none =>
      let p := drain { r with stream := .reading } false r.line.queue
      { p with entries := entries ++ p.entries }

/-- Stop consuming, for the given cause, if the stream has begun to. -/
def stopReading (r : Reader) (cause : Option Fault) : Reader × List Entry × Option Fault :=
  match r.stream with
  | .reading =>
    let (acts, fault) := Amqp.Stream.leave r.queue r.line.replies cause
    ({ r with stream := .done }, acts.map .ofAct, fault)
  | _ => ({ r with stream := .done }, [], cause)

/-- Stop the request for a delivery. -/
def stop (r : Reader) : Reader × List Entry × Option Fault := r.stopReading (some .cancellation)

/-- Close the stream. -/
def close (r : Reader) : Reader × List Entry × Option Fault := r.stopReading none

/-- Settle deliveries by a call of the channel. -/
def settle (r : Reader) (c : Settlement.Call) : Settled Reader :=
  let parcel? (d : Amqp.Delivery) : Option Parcel := r.line.sent[d.serial]?
  let q := r.channel.settle c fun d => (parcel? d).bind (·.fault? c.verdict)
  let delay := ((Amqp.settledBy q.acts).head?.bind parcel?).map (·.delay)
  ⟨{ r with channel := q.channel }, q.acts.map .ofAct, delay.getD 0, q.fault⟩

end Reader
end Baler.Simulation
