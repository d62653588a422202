import Baler.Simulation.OnLine

/-!
Trials of a worker on a broker line. In a session the worker is the main task; a program run is one
worker whose line holds all its deliveries from the beginning, with time passing by itself.
-/
namespace Baler.Simulation

/-- A worker with its line and the stream of its consumer; `listens` tells whether shutdown requests
can be heard at all. -/
structure WorkerTrial where
  worker : Worker Float
  line : Line
  stream : Amqp.Stream
  listens : Bool

/-- A command of a worker trial. -/
inductive WorkerTrial.Command
  | start
  | put (items : List (Item Parcel))
  | cancel
  | ring
  | set (site : Amqp.Site) (fault : Option Fault)
  | pass (seconds : Float)

/-- What a command answers. -/
inductive WorkerTrial.Response
  | silent
  | word (text : String)

namespace WorkerTrial

/-- A worker before its first run. -/
def fresh (settings : Settings) (line : Line) (listens : Bool) : WorkerTrial :=
  ⟨.fresh settings, line, .fresh, listens⟩

/-- How the worker closes its channel. -/
def closing (t : WorkerTrial) : Amqp.Channel → Amqp.Channel.Result := fun c => c.close t.line.replies

/-- The reader of the consumer's stream. -/
def onLine : OnLine WorkerTrial where
  reader? t := OnLine.stationReader? t.worker.assembly t.worker.station t.stream t.line
  restore t r :=
    { t with
      worker := { t.worker with assembly := t.worker.assembly.setChannel t.worker.station r.channel }
      stream := r.stream
      line := r.line }

/-- A step of the worker. -/
def stepWorker (t : WorkerTrial) (sig : Worker.Signal Float) : WorkerTrial × List Deed :=
  let (worker, deeds) := t.worker.step t.closing sig
  ({ t with worker }, deeds)

/-- How the pieces of a trial are reached. -/
def rig : Rig WorkerTrial where
  consumer? t := t.worker.consumer?
  step t sig := t.stepWorker (.consumer sig)
  cancel t := t.stepWorker .cancel
  subscribe t _ := ({ t with stream := .fresh }, [])
  poll := onLine.poll
  stop := onLine.stop
  close := onLine.close
  settle := onLine.settle
  judge t batch :=
    match t.worker.assembly.judgeAt? t.worker.station with
    | some (.keyword k) => (t, (Script.keyword k).perform batch)
    | _ => (t, (Script.takes []).perform batch)
  ring t := if t.worker.bell = .armed then some (t.stepWorker .ring) else none
  notice t := t.stepWorker .notice

/-- Start the worker. -/
def launch (s : Scene WorkerTrial) : Scene WorkerTrial :=
  let t := s.world
  let (worker, deeds) := t.worker.start t.line.replies t.closing t.listens id s.clock
  (s.advanceTo rig ({ t with worker }, deeds)).settled rig

/-- Carry out a command. -/
def run (s : Scene WorkerTrial) : Command → Scene WorkerTrial × Response
  | .start =>
    if s.world.worker.phase.isSome then (s, .word "already running") else (launch s, .silent)
  | .put items =>
    (({ s with world := { s.world with line := s.world.line.putAll items } }.offer rig).settled rig,
      .silent)
  | .cancel =>
    if s.world.worker.phase.isSome then ((s.demand rig .cancel).settled rig, .silent)
    else (s, .word "not running")
  | .ring =>
    if s.world.worker.bell = .absent then (s, .word "unhandled")
    else ((s.ring rig).settled rig, .word "delivered")
  | .set site fault =>
    ({ s with world := { s.world with line := s.world.line.set site fault } }, .silent)
  | .pass seconds => (s.pass rig seconds, .silent)

/-- What a program run leaves: the fault with which it ends, and its journal. -/
structure Outcome where
  fault : Option Fault
  journal : List Entry

/-- How the program ends once its worker has. A fault that ends the program wins over any other end:
the worker's own, then the one that stopped everything, then the consumer's. -/
def programExit (s : Scene WorkerTrial) : Exit :=
  let own := s.world.worker.ending.getD .returned
  let consumer := (s.world.worker.consumer?).bind (·.ending)
  let faults := [raised? own, s.interruption, consumer.bind raised?].filterMap id
  match faults.find? (·.endsProgram) with
  | some f => .raised f
  | none => own
where
  /-- The fault of an end. -/
  raised? : Exit → Option Fault
    | .returned => none
    | .raised f => some f

/-- Run a program: one worker over a line that holds the given items and then ends. -/
def program (settings : Settings) (line : Line) (listens : Bool) (items : List (Item Parcel)) :
    Outcome :=
  let trial := fresh settings (line.putAll (items ++ [.ended])) listens
  let s := (launch (.start trial)).finish rig
  let (records, fault) := Worker.farewell (programExit s)
  ⟨fault, s.journal.toList ++ records.map .log⟩

end WorkerTrial
end Baler.Simulation
