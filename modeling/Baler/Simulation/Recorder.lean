import Baler.Amqp.Stream
import Baler.Simulation.Entry

/-!
A broker channel that records its calls. Its queue outlives subscriptions; its streams come in
three kinds, which differ in how they end and in whether they can be closed.
-/
namespace Baler.Simulation

/-- A kind of stream: one that cleans up by itself, one that cannot be closed, and one that can. -/
inductive Flow
  | tidy
  | bare
  | closable
deriving DecidableEq, Repr

/-- The recording channel. -/
structure Recorder where
  flow : Flow
  queue : List (Item Handle)
  stream : Amqp.Stream
  delay : Float
  ackFaults : List (Int × Fault)
  nackFaults : List (Int × Fault)
  closeFault : Option Fault
  subscribeFault : Option Fault

/-- What comes of asking a stream for a delivery: an answer, nothing yet, or a pause after which it
is asked again. -/
inductive Finding
  | got (r : Reception)
  | blocked
  | pause (seconds : Float)

/-- What a double does about the request for a delivery; `rang` tells that a shutdown was asked for
meanwhile. -/
structure Poll (σ : Type) where
  world : σ
  entries : List Entry
  finding : Finding
  rang : Bool

/-- What a double does about a call that settles deliveries. It replies at once if there is no
delay; a negative delay is over at once too, but lets others go first. -/
structure Settled (σ : Type) where
  world : σ
  entries : List Entry
  delay : Float
  fault : Option Fault

namespace Recorder

/-- Record that a stream that cleans up has ended. -/
def endTidy (r : Recorder) : Recorder × List Entry :=
  match r.flow with
  | .tidy => ({ r with stream := .done }, [.cue .streamClosed])
  | _ => (r, [])

/-- A fault as the reader of the stream gets it. -/
def reception (flow : Flow) (f : Fault) : Reception :=
  match flow with
  | .tidy => .failed f.leavingStream
  | _ => if f.kind = .ended then .ended else .failed f.leavingCall

/-- Ask for the next delivery. -/
def poll (r : Recorder) : Poll Recorder :=
  if r.stream = .done then ⟨r, [], .got .ended, false⟩
  else
    let r := { r with stream := .reading }
    match r.queue with
    | .delivery h :: rest => ⟨{ r with queue := rest }, [], .got (.delivery h), false⟩
    | .nothing :: rest => ⟨{ r with queue := rest }, [], .got .ended, false⟩
    | .ended :: rest =>
      let (s, entries) := { r with queue := rest }.endTidy
      ⟨s, entries, .got .ended, false⟩
    | .failed f :: rest =>
      let (s, entries) := { r with queue := rest }.endTidy
      ⟨s, entries, .got (reception r.flow f), false⟩
    | _ => ⟨r, [], .blocked, false⟩

/-- Stop the request for a delivery. -/
def stop (r : Recorder) : Recorder × List Entry :=
  if r.stream = .reading then r.endTidy else (r, [])

/-- Close the stream. -/
def close (r : Recorder) : Recorder × List Entry × Option Fault :=
  match r.flow with
  | .closable => (r, [.cue .streamClosed], r.closeFault.map Fault.leavingCall)
  | _ =>
    let (s, entries) := r.stop
    (s, entries, none)

/-- Settle deliveries; the reply depends on the id alone. -/
def settle (r : Recorder) (c : Settlement.Call) : Settled Recorder :=
  let fault := match c with
    | .ack id _ => r.ackFaults.lookup id
    | .nack id _ => r.nackFaults.lookup id
  ⟨r, [.cue (.settle c)], r.delay, fault.map Fault.leavingCall⟩

end Recorder
end Baler.Simulation
