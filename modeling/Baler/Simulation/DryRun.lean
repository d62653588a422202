import Baler.Log.Line
import Baler.Simulation.WorkerTrial

/-!
A dry run: the worker with its settings on a broker line in memory, which holds given texts as
messages and then stays quiet for twice the longest wait, so that the last batch is not abandoned.
It shows which messages would be taken off the queue and which would be put back.
-/
namespace Baler.Simulation

/-- What a dry run shows: the settlements in order, the lines of the log, and the fault that it ends
with. -/
structure DryRun where
  settlements : List String
  log : List String
  fault : Option Fault

namespace DryRun

/-- A text as a message of a queue. -/
def message (queue : String) (id : Nat) (text : String) : Item Parcel :=
  .delivery ⟨⟨0, .whole id, .bytes (Text.Utf8.encode text.toList), some queue⟩, none, none, 0⟩

/-- A settlement in words; other calls are none. -/
def settlement? : Cue → Option String
  | .line (.ack d multiple) => some (s!"ack {d.tag.shown}" ++ if multiple then " and before" else "")
  | .line (.nack d requeue) => some (s!"nack {d.tag.shown}" ++ if requeue then " requeued" else "")
  | _ => none

/-- The queue of a dry run. -/
def queue (settings : Settings) (texts : List String) : List (Item Parcel) :=
  let messages := (texts.zipIdx 1).map fun (text, id) => message settings.queueName id text
  messages ++ [.pause (2 * Float.ofInt settings.batchMaxWaitMs / 1000)]

/-- Run a worker on texts; the first is message 1. A wrong log level ends it before it starts. -/
def run (settings : Settings) (texts : List String) : DryRun :=
  match Log.Sink.make? settings.logLevel settings.logSerialize with
  | .error f => ⟨[], [], some f⟩
  | .ok sink =>
    let outcome := WorkerTrial.program settings (.quiet []) true (queue settings texts)
    { settlements := outcome.journal.filterMap fun e => e.cue?.bind settlement?
      log := sink.lines (outcome.journal.filterMap (·.record?))
      fault := outcome.fault }

end DryRun
end Baler.Simulation
