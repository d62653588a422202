import Baler.Simulation.OnLine

/-!
Trials of an assembly on a broker line: it is connected and closed by commands, and the consumer in
use is run as the main task.
-/
namespace Baler.Simulation

/-- An assembly with its line and its strategy, the station whose consumer is the main task and the
stream of its run, and the stations whose channels can no longer be closed. -/
structure AssemblyTrial where
  assembly : Assembly Float
  line : Line
  script : Script
  station : Nat
  stream : Amqp.Stream
  broken : List (Nat × Fault)

/-- A command of an assembly trial. -/
inductive AssemblyTrial.Command
  | connect
  | close
  | consumer
  | channel
  | settings
  | breakClose (f : Fault)
  | set (site : Amqp.Site) (fault : Option Fault)
  | start
  | put (items : List (Item Parcel))
  | cancel
  | pass (seconds : Float)

/-- What a command answers. -/
inductive AssemblyTrial.Response
  | silent
  | word (text : String)
  | consumer (w : Wired Float)
  | channel (c : Amqp.Channel)
  | settings (s : Settings)
  | failed (f : Fault)

namespace AssemblyTrial

/-- The reader of the main task's stream. -/
def onLine : OnLine AssemblyTrial where
  reader? t := OnLine.stationReader? t.assembly t.station t.stream t.line
  restore t r :=
    { t with
      assembly := t.assembly.setChannel t.station r.channel
      stream := r.stream
      line := r.line }

/-- A step of the main task's consumer. -/
def stepConsumer (t : AssemblyTrial) (sig : Signal Float) : AssemblyTrial × List Deed :=
  match t.assembly.consumer? t.station with
  | none => (t, [])
  | some c =>
    let (d, actions) := c.step sig
    ({ t with assembly := t.assembly.setConsumer t.station d }, actions.map .consumer)

/-- How the pieces of a trial are reached. -/
def rig : Rig AssemblyTrial where
  consumer? t := t.assembly.consumer? t.station
  step := stepConsumer
  cancel t := t.stepConsumer .cancel
  subscribe t _ := ({ t with stream := .fresh }, [])
  poll := onLine.poll
  stop := onLine.stop
  close := onLine.close
  settle := onLine.settle
  judge t batch :=
    match t.assembly.judgeAt? t.station with
    | some (.keyword k) => (t, (Script.keyword k).perform batch)
    | _ =>
      let p := t.script.perform batch
      ({ t with script := p.script }, p)
  ring _ := none
  notice t := (t, [])

/-- Whether the main task runs. -/
def isRunning (t : AssemblyTrial) : Bool :=
  ((t.assembly.consumer? t.station).bind (·.run)).isSome

/-- How the channel in use is closed: a broken one only raises its fault. -/
def closing (t : AssemblyTrial) : Amqp.Channel → Amqp.Channel.Result :=
  match t.assembly.channelAt.bind (t.broken.lookup ·) with
  | some f => fun c => ⟨c, [], some f.leavingCall⟩
  | none => fun c => c.close t.line.replies

/-- The answer for a fault or none. -/
def Response.ofFault : Option Fault → Response
  | some f => .failed f
  | none => .silent

/-- Run the consumer in use as the main task. -/
def launch (s : Scene AssemblyTrial) (c : Consumer Float) : Scene AssemblyTrial :=
  let t := { s.world with station := s.world.assembly.consumerAt.getD 0 }
  let (d, actions) := c.begin id (.ok true) s.clock
  (s.advanceTo rig ({ t with assembly := t.assembly.setConsumer t.station d },
    actions.map .consumer)).settled rig

/-- An assembly has been connected or closed. -/
def accept (s : Scene AssemblyTrial) (r : Assembly.Result Float) : Scene AssemblyTrial × Response :=
  (({ s with world := { s.world with assembly := r.assembly } }.note
    (r.acts.map .ofAct)).settled rig, .ofFault r.fault)

/-- Carry out a command. -/
def run (s : Scene AssemblyTrial) : Command → Scene AssemblyTrial × Response
  | .connect => accept s (s.world.assembly.connect s.world.line.replies)
  | .close => accept s (s.world.assembly.close s.world.closing)
  | .consumer =>
    match s.world.assembly.wired? with
    | .ok w => (s, .consumer w)
    | .error f => (s, .failed f)
  | .channel =>
    match s.world.assembly.channel? with
    | .ok c => (s, .channel c)
    | .error f => (s, .failed f)
  | .settings => (s, .settings s.world.assembly.settings)
  | .breakClose f =>
    match s.world.assembly.channel?, s.world.assembly.channelAt with
    | .ok _, some i => ({ s with world := { s.world with broken := (i, f) :: s.world.broken } }, .silent)
    | .error g, _ => (s, .failed g)
    | .ok _, none => (s, .silent)
  | .set site fault =>
    ({ s with world := { s.world with line := s.world.line.set site fault } }, .silent)
  | .start =>
    if s.world.isRunning then (s, .word "already running")
    else match s.world.assembly.wired? with
      | .ok w => (launch s w.consumer, .silent)
      | .error f => (s, .failed f)
  | .put items =>
    (({ s with world := { s.world with line := s.world.line.putAll items } }.offer rig).settled rig,
      .silent)
  | .cancel =>
    if s.world.isRunning then ((s.demand rig .cancel).settled rig, .silent)
    else (s, .word "not running")
  | .pass seconds => (s.pass rig seconds, .silent)

end AssemblyTrial
end Baler.Simulation
