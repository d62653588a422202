import Baler.Buffer
import Baler.Processor
import Baler.Ticker

/-!
The consumer of a queue: it collects deliveries and flushes them when they fill a batch or when its
timer is due. A run is a state machine. Signals come in: a delivery, a reply, the end of a wait, a
cancellation. Actions go out, in order, and the machine then stands at its next suspension.
-/
namespace Baler

/-- What a consumer reports about itself. -/
inductive Standing
  | idle
  | accumulating
  | flushing
  | stopped
deriving DecidableEq, Repr

/-- The name of a standing. -/
def Standing.name : Standing → String
  | .idle => "IDLE"
  | .accumulating => "ACCUMULATING"
  | .flushing => "FLUSHING"
  | .stopped => "STOPPED"

/-- What the stream answers when it is asked for a delivery. -/
inductive Reception
  | delivery (h : Handle)
  | ended
  | failed (f : Fault)
deriving DecidableEq, Repr

/-- The request for the next delivery: not made, under way, or answered but not yet read. -/
inductive Receive
  | idle
  | pending
  | ready (r : Reception)
deriving DecidableEq, Repr

/-- How a run ends. -/
inductive Exit
  | returned
  | raised (f : Fault)
deriving DecidableEq, Repr

/-- Where a run is suspended. `spinning` is no suspension: the timer stays due for ever. -/
inductive Phase
  | waiting
  | spinning
  | flushing (trigger : Trigger) (size : Nat) (work : Processing)
  | stoppingReceive (exit : Exit)
  | closingStream (exit : Exit)

/-- One run of a consumer. -/
structure Run (τ : Type) where
  ticker : Ticker τ
  receive : Receive
  closable : Bool
  phase : Phase

/-- A consumer between and during its runs. -/
structure Consumer (τ : Type) where
  queue : String
  policy : Policy
  haltOnFault : Bool
  buffer : Buffer
  processor : Processor
  standing : Standing
  flushes : Nat
  run : Option (Run τ)
  ending : Option Exit

/-- What a run does to its surroundings. -/
inductive Action
  | log (r : Log.Record)
  | subscribe (queue : String)
  | receive
  | stopReceiving
  | closeStream
  | process (batch : List Handle)
  | settle (c : Settlement.Call)

/-- What happens to a run. -/
inductive Signal (τ : Type)
  | received (r : Reception)
  | wake (now : τ)
  | replied (r : Reply) (now : τ)
  | receiveStopped
  | closed (fault : Option Fault)
  | cancel

namespace Consumer

variable {τ : Type}

/-- The consumer before its first run. -/
def fresh (queue : String) (policy : Policy) (haltOnFault : Bool) : Consumer τ where
  queue := queue
  policy := policy
  haltOnFault := haltOnFault
  buffer := .ofPolicy policy
  processor := .fresh policy.mode
  standing := .idle
  flushes := 0
  run := none
  ending := none

/-- The run stands at a suspension. -/
def suspend (c : Consumer τ) (r : Run τ) : Consumer τ := { c with run := some r }

/-- The run is over and leaves everything else as it is. -/
def halt (c : Consumer τ) (exit : Exit) : Consumer τ := { c with run := none, ending := some exit }

/-- The run is over: what is left in the buffer is reported and left to the broker. -/
def finish (c : Consumer τ) (exit : Exit) : Consumer τ × List Action :=
  let left := if c.buffer.isEmpty then [] else [.log (.event (.abandoned c.buffer.size))]
  ({ c with standing := .stopped }.halt exit,
    left ++ [.log (.event (.consumerStopped c.queue c.flushes))])

/-- Close the stream if it can be closed, and finish. -/
def closeStream (c : Consumer τ) (r : Run τ) (exit : Exit) : Consumer τ × List Action :=
  if r.closable then (c.suspend { r with phase := .closingStream exit }, [.closeStream])
  else c.finish exit

/-- Leave the loop: a request for a delivery that is under way is stopped first. -/
def leave (c : Consumer τ) (r : Run τ) (exit : Exit) : Consumer τ × List Action :=
  match r.receive with
  | .pending => (c.suspend { r with phase := .stoppingReceive exit }, [.stopReceiving])
  | _ => c.closeStream r exit

/-- The batch is settled, or its fault is tolerated: the flush ends here if the loop goes on. -/
def concludeFlush (c : Consumer τ) (trigger : Trigger) (size : Nat) (tolerated : Option Fault) :
    Consumer τ × List Action :=
  let warning := match tolerated with
    | some f => [.log (.note .warning s!"batch processing failed, continuing: {f.text}")]
    | none => []
  ({ c with flushes := c.flushes + 1, standing := .idle },
    warning ++ [.log (.event (.flushed trigger size))])

variable [Add τ] [LE τ] [DecidableLE τ]

/-- Wait for a delivery, which is asked for unless it has been already. -/
def await (c : Consumer τ) (r : Run τ) : Consumer τ × List Action :=
  match r.receive with
  | .idle => (c.suspend { r with receive := .pending, phase := .waiting }, [.receive])
  | _ => (c.suspend { r with phase := .waiting }, [])

/-- Take the batch out of the buffer and hand it to the strategy. -/
def flush (c : Consumer τ) (r : Run τ) (trigger : Trigger) (batch : List Handle) :
    Consumer τ × List Action :=
  ({ c with buffer := c.buffer.drained, standing := .flushing }.suspend
      { r with phase := .flushing trigger batch.length (.deciding batch) },
    [.process batch])

/-- One turn of the loop: if the timer is due, what is buffered is flushed; else wait. -/
def turn (c : Consumer τ) (r : Run τ) (now : τ) : Consumer τ × List Action :=
  if r.ticker.isDue now then
    let r := { r with ticker := r.ticker.advance now }
    if c.buffer.isEmpty then
      if r.ticker.isDue now then (c.suspend { r with phase := .spinning }, []) else c.await r
    else
      let (d, actions) := c.flush r .timeout c.buffer.items
      (d, .log (.event (.timeoutReached c.buffer.size)) :: actions)
  else c.await r

/-- Put a delivery into the buffer, and flush if it makes a batch. -/
def accept (c : Consumer τ) (r : Run τ) (h : Handle) (now : τ) : Consumer τ × List Action :=
  let c := { c with buffer := c.buffer.add h, standing := .accumulating }
  let note : Action := .log (.note .debug
    s!"buffered delivery {h.id} ({c.buffer.size}/{c.policy.capacity})")
  if c.buffer.isReady then
    let (d, actions) := c.flush r .size c.buffer.items
    (d, note :: .log (.event (.sizeReached c.buffer.size)) :: actions)
  else
    let (d, actions) := c.turn r now
    (d, note :: actions)

/-- The fault with which a run ends when its stream fails. -/
def streamFault (f : Fault) : Fault :=
  if f.kind = .stream then f
  else if f.isOrdinary then ⟨.stream, s!"delivery stream failed: {f.text}"⟩
  else f

/-- Read what the stream has answered. -/
def read (c : Consumer τ) (r : Run τ) (got : Reception) (now : τ) : Consumer τ × List Action :=
  let r := { r with receive := .idle }
  match got with
  | .delivery h => c.accept r h now
  | .ended =>
    let (d, actions) := c.leave r .returned
    (d, .log (.event (.streamEnded c.queue c.buffer.size)) :: actions)
  | .failed f => c.leave r (.raised (streamFault f))

/-- The batch of a flush is finished, with the fault that is passed on. -/
def flushed (c : Consumer τ) (r : Run τ) (trigger : Trigger) (size : Nat) (failure : Option Fault)
    (now : τ) : Consumer τ × List Action :=
  let goOn (tolerated : Option Fault) : Consumer τ × List Action :=
    let (d, actions) := c.concludeFlush trigger size tolerated
    let (e, more) := d.turn r now
    (e, actions ++ more)
  match failure with
  | none => goOn none
  | some f =>
    if f.isOrdinary && !c.haltOnFault then goOn (some f)
    else { c with flushes := c.flushes + 1 }.leave r (.raised f)

/-- Go on with the batch of a flush after a reply. -/
def proceed (c : Consumer τ) (r : Run τ) (trigger : Trigger) (size : Nat) (work : Processing)
    (reply : Reply) (now : τ) : Consumer τ × List Action :=
  let (processor, log, progress) := c.processor.resume work reply
  let c := { c with processor }
  match progress with
  | .busy work =>
    let asked := match work with
      | .deciding batch => .process batch
      | .settling call _ _ _ => .settle call
    (c.suspend { r with phase := .flushing trigger size work }, log.map .log ++ [asked])
  | .finished failure =>
    let (d, actions) := c.flushed r trigger size failure now
    (d, log.map .log ++ actions)

/-- The fault of closing the stream: an ordinary one is logged, any other ends the run. -/
def closed (c : Consumer τ) (exit : Exit) : Option Fault → Consumer τ × List Action
  | none => c.finish exit
  | some f =>
    if f.isOrdinary then
      let (d, actions) := c.finish exit
      (d, .log (.note .warning s!"closing delivery stream failed: {f.text}") :: actions)
    else (c.halt (.raised f), [])

/-- Start a run on a stream that has been subscribed to. -/
def start (c : Consumer τ) (interval : τ) (wait : Float) (closable : Bool) (now : τ) :
    Consumer τ × List Action :=
  let c := { c with standing := .idle, ending := none }
  let r : Run τ := ⟨.start interval now, .idle, closable, .waiting⟩
  let (d, actions) := c.turn r now
  (d, .log (.event (.consumerStarted c.queue c.policy.capacity wait c.policy.mode)) :: actions)

/-- Begin a run: subscribe to the queue and start. `subscription` is what the channel answers, a
stream that can be closed or not; `instant` measures seconds. -/
def begin (c : Consumer τ) (instant : Float → τ) (subscription : Except Fault Bool) (now : τ) :
    Consumer τ × List Action :=
  match c.policy.wait.toFloat with
  | .error f => (c.halt (.raised f), [])
  | .ok wait =>
    match subscription with
    | .error f => (c.halt (.raised f), [.subscribe c.queue])
    | .ok closable =>
      let (d, actions) := c.start (instant wait) wait closable now
      (d, .subscribe c.queue :: actions)

/-- What a run does on a signal. A signal that does not fit its suspension changes nothing. -/
def step (c : Consumer τ) (s : Signal τ) : Consumer τ × List Action :=
  match c.run with
  | none => (c, [])
  | some r =>
    match s, r.phase with
    | .received got, _ =>
      match r.receive with
      | .pending => (c.suspend { r with receive := .ready got }, [])
      | _ => (c, [])
    | .wake now, .waiting =>
      match r.receive with
      | .ready got => c.read r got now
      | _ => c.turn r now
    | .replied reply now, .flushing trigger size work =>
      if work.takes reply then c.proceed r trigger size work reply now else (c, [])
    | .receiveStopped, .stoppingReceive exit => c.closeStream { r with receive := .idle } exit
    | .closed fault, .closingStream exit => c.closed exit fault
    | .cancel, .waiting => c.leave r (.raised .cancellation)
    | .cancel, .flushing _ _ _ =>
      { c with flushes := c.flushes + 1 }.leave r (.raised .cancellation)
    | .cancel, .stoppingReceive _ => (c.halt (.raised .cancellation), [])
    | .cancel, .closingStream _ => (c.halt (.raised .cancellation), [])
    | _, _ => (c, [])

end Consumer
end Baler
