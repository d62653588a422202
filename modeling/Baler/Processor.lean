import Baler.Settlement

/-!
The processor of batches. It asks the strategy about a batch, makes a plan from the answer and
walks through it, one broker call at a time. Faults of single calls are logged and passed over; the
processor remembers the deliveries whose nack failed, across batches.
-/
namespace Baler

open Settlement

/-- What lasts from one batch to the next. -/
structure Processor where
  mode : AckMode
  failedNacks : List Int
deriving DecidableEq, Repr

/-- A batch in work: with the strategy, or with the broker for one call of its plan. -/
inductive Processing
  | deciding (batch : List Handle)
  | settling (call : Call) (rest : List Step) (closing : List Log.Record) (failure : Option Fault)

/-- Where a batch stands: in work, or finished with the fault that is passed on. -/
inductive Progress
  | busy (work : Processing)
  | finished (failure : Option Fault)

/-- What comes back to a batch in work. -/
inductive Reply
  | answered (a : Answer)
  | settled (fault : Option Fault)

/-- Whether a reply is the one that a batch in work waits for. -/
def Processing.takes : Processing → Reply → Bool
  | .deciding _, .answered _ => true
  | .settling _ _ _ _, .settled _ => true
  | _, _ => false

/-- How a plan goes on after a broker call. -/
inductive Course
  | onward
  | stop (failure : Option Fault)
deriving DecidableEq, Repr

namespace Processor

/-- The processor before any batch. -/
def fresh (mode : AckMode) : Processor := ⟨mode, []⟩

/-- Take a batch; an empty one needs neither the strategy nor the broker. -/
def begin (batch : List Handle) : Progress :=
  if batch.isEmpty then .finished none else .busy (.deciding batch)

/-- Remember a delivery whose nack failed. -/
def remember (p : Processor) (id : Int) : Processor :=
  if id ∈ p.failedNacks then p else { p with failedNacks := p.failedNacks ++ [id] }

/-- Take the reply of the broker to a call. An ordinary fault is logged; it ends the plan only if
the call was cumulative. Any other fault ends the plan and is passed on. -/
def react (p : Processor) (c : Call) : Option Fault → Processor × List Log.Record × Course
  | none => (p, [], .onward)
  | some f =>
    if !f.isOrdinary then (p, [], .stop (some f))
    else match c with
      | .ack id true =>
        (p, [.note .warning s!"cumulative ack failed for delivery {id}: {f.text}",
          .event (.ackFailed id true f.text)], .stop none)
      | .ack id false =>
        (p, [.note .warning s!"ack failed for delivery {id}: {f.text}",
          .event (.ackFailed id false f.text)], .onward)
      | .nack id _ =>
        (p.remember id, [.note .warning s!"nack failed for delivery {id}: {f.text}",
          .event (.nackFailed id f.text)], .onward)

/-- Walk to the next broker call, or to the end of the plan. -/
def proceed (closing : List Log.Record) (failure : Option Fault) :
    List Step → List Log.Record × Progress
  | [] => (closing, .finished failure)
  | .call c :: rest => ([], .busy (.settling c rest closing failure))
  | .skip v id :: rest =>
    let (log, progress) := proceed closing failure rest
    (.note .warning s!"delivery {id} already settled, skipping {v.name}" :: log, progress)

/-- Start a plan. -/
def start (plan : Plan) : List Log.Record × Progress :=
  let (log, progress) := proceed plan.closing plan.failure plan.steps
  (plan.opening ++ log, progress)

/-- Go on with a batch after a reply; a reply that does not fit leaves it as it is. -/
def resume (p : Processor) : Processing → Reply → Processor × List Log.Record × Progress
  | .deciding batch, .answered a => (p, start (.make p.mode p.failedNacks batch a))
  | .settling c rest closing failure, .settled fault =>
    match p.react c fault with
    | (q, log, .stop f) => (q, log, .finished f)
    | (q, log, .onward) =>
      let (more, progress) := proceed closing failure rest
      (q, log ++ more, progress)
  | work, _ => (p, [], .busy work)

/-- What a processor does while it settles a batch. -/
inductive Act
  | call (c : Call)
  | log (r : Log.Record)

/-- Walk through the steps of a plan with a broker that replies to each call. -/
def walk (broker : Call → Option Fault) (closing : List Log.Record) (failure : Option Fault) :
    List Step → Processor → Processor × List Act × Option Fault
  | [], p => (p, closing.map .log, failure)
  | .skip v id :: rest, p =>
    let (q, acts, f) := walk broker closing failure rest p
    (q, .log (.note .warning s!"delivery {id} already settled, skipping {v.name}") :: acts, f)
  | .call c :: rest, p =>
    match p.react c (broker c) with
    | (q, log, .stop f) => (q, .call c :: log.map .log, f)
    | (q, log, .onward) =>
      let (r, acts, f) := walk broker closing failure rest q
      (r, .call c :: log.map .log ++ acts, f)

/-- Process a batch on which the strategy answers `answer`, with a broker that replies to each
call: the processor afterwards, what it did and the fault that is passed on. -/
def process (p : Processor) (broker : Call → Option Fault) (batch : List Handle) (answer : Answer) :
    Processor × List Act × Option Fault :=
  if batch.isEmpty then (p, [], none)
  else
    let plan := Plan.make p.mode p.failedNacks batch answer
    let (q, acts, f) := walk broker plan.closing plan.failure plan.steps p
    (q, plan.opening.map .log ++ acts, f)

@[simp] theorem mode_remember (p : Processor) (id : Int) : (p.remember id).mode = p.mode := by
  unfold remember; split <;> rfl

@[simp] theorem react_none (p : Processor) (c : Call) : p.react c none = (p, [], .onward) := rfl

end Processor
end Baler
