import Baler.Assembly

/-!
The worker: it connects, runs the consumer and waits until the consumer ends or a shutdown is asked
for. Then it stops the consumer if need be, closes what it has built, and ends with the consumer's
fault, unless that is a cancellation.

The consumer's end and the worker's wake are one step. A cancellation that comes between them is
left out: the worker would close everything all the same, but without a fault of the consumer to
pass on it would end with the cancellation and not return.
-/
namespace Baler

/-- The request to shut down: nobody listens, someone listens, or it has been made. -/
inductive Bell
  | absent
  | armed
  | rung
deriving DecidableEq, Repr

/-- Where a worker stands while it runs: it supervises its consumer, or waits for the end of a
consumer that it has told to stop, perhaps because the worker itself is being cancelled. -/
inductive Worker.Phase
  | supervising
  | stopping (cancelled : Bool)
deriving DecidableEq, Repr

/-- A worker, with the station whose consumer it runs. -/
structure Worker (τ : Type) where
  assembly : Assembly τ
  bell : Bell
  station : Nat
  phase : Option Worker.Phase
  ending : Option Exit

/-- What happens to a worker. -/
inductive Worker.Signal (τ : Type)
  | consumer (s : Baler.Signal τ)
  | ring
  | notice
  | cancel

/-- What is done: by the worker and its channel, or by the consumer. -/
inductive Deed
  | line (a : Amqp.Act)
  | consumer (a : Action)

namespace Worker

variable {τ : Type}

/-- A worker that has not been started. -/
def fresh (settings : Settings) : Worker τ := ⟨.fresh settings none, .absent, 0, none, none⟩

/-- The consumer that the worker runs. -/
def consumer? (w : Worker τ) : Option (Consumer τ) := w.assembly.consumer? w.station

/-- A worker that has come to its end. -/
def halt (w : Worker τ) (exit : Exit) : Worker τ := { w with phase := none, ending := some exit }

/-- An event as a deed. -/
def event (e : Log.Event) : Deed := .line (.event e)

/-- The fault of a consumer that the worker passes on: its cancellation is none. -/
def passedOn : Option Exit → Option Fault
  | some (.raised f) => if f.kind = .cancelled then none else some f
  | _ => none

/-- How the worker ends once everything is closed. -/
def exitOf (cancelled : Bool) (consumer : Option Exit) : Exit :=
  match passedOn consumer with
  | some f => .raised f
  | none => if cancelled then .raised .cancellation else .returned

/-- The consumer has ended: close everything and end. -/
def conclude (w : Worker τ) (closing : Amqp.Channel → Amqp.Channel.Result) (cancelled : Bool)
    (consumer : Option Exit) : Worker τ × List Deed :=
  let r := w.assembly.close closing
  let acts := r.acts.map .line
  match r.fault with
  | some f => ({ w with assembly := r.assembly }.halt (.raised f), acts)
  | none => ({ w with assembly := r.assembly }.halt (exitOf cancelled consumer),
      acts ++ [event .workerStopped])

/-- End if the consumer has ended. -/
def settle (w : Worker τ) (closing : Amqp.Channel → Amqp.Channel.Result) (c : Consumer τ)
    (actions : List Action) : Worker τ × List Deed :=
  let w := { w with assembly := w.assembly.setConsumer w.station c }
  let deeds := actions.map Deed.consumer
  if c.run.isSome then (w, deeds)
  else
    let (v, more) := w.conclude closing (w.phase == some (.stopping true)) c.ending
    (v, deeds ++ more)

/-- What the program reports about the end of its worker, and the fault with which it ends itself.
An interrupt is an orderly end. -/
def farewell : Exit → List Log.Record × Option Fault
  | .returned => ([], none)
  | .raised f =>
    if f.kind = .interrupt then ([.event .workerInterrupted], none)
    else if f.isOrdinary then ([.note .error s!"worker failed: {f.text}"], some f)
    else ([], some f)

variable [Add τ] [LE τ] [DecidableLE τ]

/-- Pass a signal to the consumer. -/
def passSignal (w : Worker τ) (closing : Amqp.Channel → Amqp.Channel.Result)
    (s : Baler.Signal τ) : Worker τ × List Deed :=
  match w.consumer? with
  | none => (w, [])
  | some c =>
    let (d, actions) := c.step s
    w.settle closing d actions

/-- What a running worker does on a signal. -/
def step (w : Worker τ) (closing : Amqp.Channel → Amqp.Channel.Result) (s : Signal τ) :
    Worker τ × List Deed :=
  match s, w.phase with
  | .ring, _ =>
    if w.bell = .armed then ({ w with bell := .rung }, [event .shutdownRequested]) else (w, [])
  | .consumer s, some _ => w.passSignal closing s
  | .notice, some .supervising =>
    if w.bell = .rung then
      { w with phase := some (.stopping false) }.passSignal closing .cancel
    else (w, [])
  | .cancel, some .supervising =>
    { w with phase := some (.stopping true) }.passSignal closing .cancel
  | .cancel, some (.stopping _) => w.passSignal closing .cancel
  | _, _ => (w, [])

/-- The connection has failed with the given fault; an ordinary fault closes what was built. -/
def abandonStart (w : Worker τ) (closing : Amqp.Channel → Amqp.Channel.Result) (f : Fault) :
    Worker τ × List Deed :=
  if f.isOrdinary then
    let r := w.assembly.close closing
    ({ w with assembly := r.assembly }.halt (.raised (r.fault.getD f)), r.acts.map .line)
  else (w.halt (.raised f), [])

/-- Start the consumer of a station that has been wired. -/
def startConsumer (w : Worker τ) (closing : Amqp.Channel → Amqp.Channel.Result)
    (instant : Float → τ) (now : τ) : Worker τ × List Deed :=
  match w.consumer? with
  | none => (w, [])
  | some c =>
    let (d, actions) := c.begin instant (.ok true) now
    w.settle closing d actions

/-- Connect and start the consumer. `listens` tells whether shutdown requests can be heard. -/
def start (w : Worker τ) (replies : Amqp.Replies) (closing : Amqp.Channel → Amqp.Channel.Result)
    (listens : Bool) (instant : Float → τ) (now : τ) : Worker τ × List Deed :=
  let r := Assembly.connect (.fresh w.assembly.settings none) replies
  let acts := r.acts.map Deed.line
  let w := { w with assembly := r.assembly, ending := none }
  match r.fault with
  | some f =>
    let (v, more) := w.abandonStart closing f
    (v, acts ++ more)
  | none =>
    let w := { w with
      bell := if listens then .armed else w.bell
      station := r.assembly.consumerAt.getD 0
      phase := some .supervising }
    let (v, more) := w.startConsumer closing instant now
    (v, acts ++ event (.workerStarted w.assembly.settings.queueName) :: more)

end Worker
end Baler
