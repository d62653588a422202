import Baler.Log.Record
import Baler.Outcome

/-!
Plans for settling a batch. The answer of a strategy fixes the whole plan: what is logged first,
the broker calls in order, what is logged last and the fault that is passed on. Every delivery id
gets at most one call; later occurrences are passed over.
-/
namespace Baler.Settlement

/-- The two ways to settle a delivery. -/
inductive Verdict
  | ack
  | nack
deriving DecidableEq, Repr

/-- The name of a verdict in the log. -/
def Verdict.name : Verdict → String
  | .ack => "ack"
  | .nack => "nack"

/-- A call of the broker channel. A cumulative ack covers every delivery up to its id. -/
inductive Call
  | ack (id : Int) (cumulative : Bool)
  | nack (id : Int) (requeue : Bool)
deriving DecidableEq, Repr

/-- The id that a call names. -/
def Call.id : Call → Int
  | .ack id _ => id
  | .nack id _ => id

/-- Whether a call covers smaller ids too. -/
def Call.isCumulative : Call → Bool
  | .ack _ cumulative => cumulative
  | .nack _ _ => false

/-- The verdict that a call carries out. -/
def Call.verdict : Call → Verdict
  | .ack _ _ => .ack
  | .nack _ _ => .nack

/-- The call for a single delivery; a refused one goes back to the queue. -/
def Verdict.call : Verdict → Int → Call
  | .ack, id => .ack id false
  | .nack, id => .nack id true

/-- One step of a plan. -/
inductive Step
  | call (c : Call)
  | skip (v : Verdict) (id : Int)
deriving DecidableEq, Repr

/-- The call of a step that makes one. -/
def Step.call? : Step → Option Call
  | .call c => some c
  | .skip _ _ => none

/-- A step for every id in order, passing over the ids that are settled. -/
def visit (verdict : Int → Verdict) : (settled : List Int) → List Int → List Step
  | _, [] => []
  | settled, id :: rest =>
    if id ∈ settled then .skip (verdict id) id :: visit verdict settled rest
    else .call ((verdict id).call id) :: visit verdict (id :: settled) rest

/-- How a batch will be settled. -/
structure Plan where
  opening : List Log.Record
  steps : List Step
  closing : List Log.Record
  failure : Option Fault

/-- The broker calls of a plan, in order. -/
def Plan.calls (p : Plan) : List Call := p.steps.filterMap Step.call?

/-- What a strategy answers: an outcome, a value of another kind, or a fault. -/
inductive Answer
  | outcome (o : Outcome)
  | stray (kind : String)
  | raised (f : Fault)
deriving DecidableEq, Repr

/-- The fault of a strategy that answers with no outcome. -/
def strayAnswer (kind : String) : Fault :=
  ⟨.outcome, s!"strategy returned {kind}, expected a ProcessOutcome"⟩

namespace Plan

/-- Nothing is settled and the fault is passed on. -/
def givenUp (f : Fault) : Plan := ⟨[], [], [], some f⟩

/-- After a fault of the strategy the whole batch goes back to the queue. -/
def refused (f : Fault) (batch : List Handle) : Plan where
  opening := [.note .error s!"batch processing failed: {f.text}",
    .event (.strategyFailed batch.length f.text)]
  steps := visit (fun _ => .nack) [] (ids batch)
  closing := []
  failure := some f

/-- After a total failure the whole batch goes back to the queue. -/
def returned (batch : List Handle) : Plan where
  opening := []
  steps := visit (fun _ => .nack) [] (ids batch)
  closing := [.event (.totalFailure batch.length)]
  failure := none

/-- Every delivery is acked by itself. -/
def ackedEach (opening : List Log.Record) (batch : List Handle) : Plan where
  opening := opening
  steps := visit (fun _ => .ack) [] (ids batch)
  closing := [.event (.ackedEach batch.length)]
  failure := none

/-- One ack of the largest id covers the batch. -/
def ackedTogether (first : Handle) (rest : List Handle) : Plan where
  opening := []
  steps := [.call (.ack (largestId first.id rest) true)]
  closing := [.event (.ackedUpTo (rest.length + 1) (largestId first.id rest))]
  failure := none

/-- The failed deliveries go back to the queue and the others are acked. -/
def divided (failed : List Int) (strays : List Stray) (batch : List Handle) : Plan :=
  let isNamed := Outcome.holds failed strays
  let foreign := failed.filter fun id => !(ids batch).contains id
  let unknown := strays.filter fun s => !(ids batch).any s.denotes
  let count := ((ids batch).filter isNamed).length
  match Outcome.sortedNames foreign unknown with
  | .error f => givenUp f
  | .ok names =>
    { opening := if names.isEmpty then [] else
        [.note .warning s!"ignoring failed ids not in batch: {(Value.list names).inner}"]
      steps := visit (fun id => if isNamed id then .nack else .ack) [] (ids batch)
      closing := [.event (.partialFailure batch.length (batch.length - count) count)]
      failure := none }

/-- The plan after a full success, given the deliveries whose nack has failed. A cumulative ack
would reach over those, so they rule it out. -/
def succeeded (mode : AckMode) (failedNacks : List Int) : List Handle → Plan
  | [] => ⟨[], [], [], none⟩
  | first :: rest =>
    match mode, failedNacks with
    | .individual, _ => ackedEach [] (first :: rest)
    | .batched, [] => ackedTogether first rest
    | .batched, _ :: _ =>
      let names := (Value.list ((sorted failedNacks).map Value.whole)).inner
      ackedEach [.note .warning
        s!"nack failed earlier for deliveries {names}, acking individually"] (first :: rest)

/-- The plan for an answer. -/
def make (mode : AckMode) (failedNacks : List Int) (batch : List Handle) : Answer → Plan
  | .outcome .success => succeeded mode failedNacks batch
  | .outcome (.partialFailure failed strays) => divided failed strays batch
  | .outcome .totalFailure => returned batch
  | .stray kind => refused (strayAnswer kind) batch
  | .raised f => if f.isOrdinary then refused f batch else givenUp f

end Plan

end Baler.Settlement
