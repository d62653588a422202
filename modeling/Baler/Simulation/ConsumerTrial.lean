import Baler.Simulation.Scene

/-!
Trials of a consumer over a recording channel: a session of commands, after each of which everything
that needs no time has happened.
-/
namespace Baler.Simulation

/-- A consumer with its channel and its strategy. -/
structure ConsumerTrial where
  consumer : Consumer Float
  recorder : Recorder
  script : Script

/-- A command of a consumer trial. -/
inductive ConsumerTrial.Command
  | start
  | put (items : List (Item Handle))
  | cancel
  | policy
  | pass (seconds : Float)

/-- What a command answers. -/
inductive ConsumerTrial.Response
  | silent
  | word (text : String)
  | policy (p : Policy)

namespace ConsumerTrial

/-- How the pieces of a trial are reached. -/
def rig : Rig ConsumerTrial where
  consumer? w := some w.consumer
  step w sig :=
    let (consumer, actions) := w.consumer.step sig
    ({ w with consumer }, actions.map .consumer)
  cancel w :=
    let (consumer, actions) := w.consumer.step .cancel
    ({ w with consumer }, actions.map .consumer)
  subscribe w queue :=
    ({ w with recorder := { w.recorder with stream := .fresh } }, [.cue (.subscribe queue)])
  poll w :=
    let p := w.recorder.poll
    ⟨{ w with recorder := p.world }, p.entries, p.finding, p.rang⟩
  stop w :=
    let (recorder, entries) := w.recorder.stop
    ({ w with recorder }, entries, none)
  close w :=
    let (recorder, entries, fault) := w.recorder.close
    ({ w with recorder }, entries, fault)
  settle w c :=
    let r := w.recorder.settle c
    ⟨{ w with recorder := r.world }, r.entries, r.delay, r.fault⟩
  judge w batch :=
    let p := w.script.perform batch
    ({ w with script := p.script }, p)
  ring _ := none
  notice w := (w, [])

/-- What the channel answers to a subscription. -/
def subscription (r : Recorder) : Except Fault Bool :=
  match r.subscribeFault with
  | some f => .error f.leavingCall
  | none => .ok (r.flow ≠ .bare)

/-- Begin a run. -/
def launch (s : Scene ConsumerTrial) : Scene ConsumerTrial :=
  let w := s.world
  let (consumer, actions) := w.consumer.begin id (subscription w.recorder) s.clock
  (s.advanceTo rig ({ w with consumer }, actions.map .consumer)).settled rig

/-- Carry out a command. -/
def run (s : Scene ConsumerTrial) : Command → Scene ConsumerTrial × Response
  | .start =>
    if s.world.consumer.run.isSome then (s, .word "already running") else (launch s, .silent)
  | .put items =>
    let w := s.world
    let recorder := { w.recorder with queue := w.recorder.queue ++ items }
    (({ s with world := { w with recorder } }.offer rig).settled rig, .silent)
  | .cancel =>
    if s.world.consumer.run.isSome then ((s.demand rig .cancel).settled rig, .silent)
    else (s, .word "not running")
  | .policy => (s, .policy s.world.consumer.policy)
  | .pass seconds => (s.pass rig seconds, .silent)

end ConsumerTrial
end Baler.Simulation
