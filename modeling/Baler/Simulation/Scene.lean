import Baler.Simulation.Recorder
import Baler.Simulation.Script
import Baler.Worker

/-!
Virtual time. A scene runs a consumer among doubles: the jobs that are ready are carried out in the
order in which they became ready, and when none is left time goes on to the next timer. A rig says
how the consumer, its stream, its channel and its strategy are reached in a world.
-/
namespace Baler.Simulation

/-- How the pieces of a world are reached. -/
structure Rig (σ : Type) where
  consumer? : σ → Option (Consumer Float)
  step : σ → Signal Float → σ × List Deed
  cancel : σ → σ × List Deed
  subscribe : σ → String → σ × List Entry
  poll : σ → Poll σ
  stop : σ → σ × List Entry × Option Fault
  close : σ → σ × List Entry × Option Fault
  settle : σ → Settlement.Call → Settled σ
  judge : σ → List Handle → σ × Performance
  ring : σ → Option (σ × List Deed)
  notice : σ → σ × List Deed

/-- What makes the consumer go on: what it waits for, with the entries that are made then, or a
request to stop. -/
inductive Nudge
  | wake
  | reply (entries : List Entry) (r : Reply)
  | receiveStopped
  | cancel
  | notice

/-- Something that can be carried out. -/
inductive Job
  /-- The stream looks for the delivery that is asked for. -/
  | ask
  /-- The stream is told that it need not look any further. -/
  | stopAsking
  /-- What the consumer waits for has come, which makes it go on. -/
  | release (n : Nudge)
  /-- The consumer goes on. -/
  | stir (n : Nudge)
  /-- A shutdown request is passed on, so many times still, and then noticed. -/
  | heed (hops : Nat)

/-- A job whose time has not come. -/
structure Timer where
  instant : Float
  job : Job

/-- A world in time. `soon` is a signal that follows within the job that is being carried out, and
`interruption` the last fault that ended the program. -/
structure Scene (σ : Type) where
  world : σ
  clock : Float
  soon : Option (Signal Float)
  jobs : List Job
  timers : List Timer
  interruption : Option Fault
  journal : Array Entry

namespace Job

/-- Whether a job makes the consumer go on. -/
def isStir : Job → Bool
  | stir _ => true
  | _ => false

/-- Whether a job makes the stream look for a delivery. -/
def isAsk : Job → Bool
  | ask => true
  | _ => false

/-- Whether a job passes a shutdown request on. -/
def isHeed : Job → Bool
  | heed _ => true
  | _ => false

end Job

namespace Scene

variable {σ : Type}

/-- A world at the beginning of time. -/
def start (world : σ) : Scene σ := ⟨world, 0, none, [], [], none, #[]⟩

/-- Append entries to the journal. -/
def note (s : Scene σ) (entries : List Entry) : Scene σ :=
  { s with journal := s.journal ++ entries.toArray }

/-- Make a job ready. -/
def ready (s : Scene σ) (j : Job) : Scene σ := { s with jobs := s.jobs ++ [j] }

/-- Make a job ready after a time. One that takes no time lets those go first that are ready. -/
def delay (s : Scene σ) (seconds : Float) (j : Job) : Scene σ :=
  if 0 < seconds then { s with timers := s.timers ++ [⟨s.clock + seconds, j⟩] } else s.ready j

/-- Put a job in the place of the one of its kind, or make it ready if there is none. -/
def supplant (s : Scene σ) (kind : Job → Bool) (j : Job) : Scene σ :=
  if s.jobs.any kind then { s with jobs := s.jobs.map fun i => if kind i then j else i }
  else { s with timers := s.timers.filter (!kind ·.job) }.ready j

/-- The running consumer's run. -/
def run? (rig : Rig σ) (s : Scene σ) : Option (Run Float) :=
  (rig.consumer? s.world).bind (·.run)

/-- Whether the consumer waits for what a nudge tells. -/
def awaits (rig : Rig σ) (s : Scene σ) (n : Nudge) : Bool :=
  match s.run? rig, n with
  | some ⟨_, .ready _, _, .waiting⟩, .wake => true
  | some ⟨_, _, _, .stoppingReceive _⟩, .receiveStopped => true
  | _, _ => false

/-- A reply comes at once, or after a delay. -/
def schedule (s : Scene σ) (seconds : Float) (entries : List Entry) (reply : Reply) : Scene σ :=
  if seconds == 0 then { s.note entries with soon := some (.replied reply s.clock) }
  else s.delay seconds (.stir (.reply entries reply))

/-- Carry out one deed. -/
def perform (rig : Rig σ) (s : Scene σ) : Deed → Scene σ
  | .line act => s.note [.ofAct act]
  | .consumer (.log r) => s.note [.log r]
  | .consumer (.subscribe queue) =>
    let (world, entries) := rig.subscribe s.world queue
    { s.note entries with world }
  | .consumer .receive => s.ready .ask
  | .consumer .stopReceiving => s.supplant Job.isAsk .stopAsking
  | .consumer .closeStream =>
    let (world, entries, fault) := rig.close s.world
    { s.note entries with world, soon := some (.closed fault) }
  | .consumer (.process batch) =>
    let (world, p) := rig.judge s.world batch
    { s.note p.before with world }.schedule p.delay p.after (.answered p.answer)
  | .consumer (.settle c) =>
    let r := rig.settle s.world c
    { s.note r.entries with world := r.world }.schedule r.delay [] (.settled r.fault)

/-- Carry out deeds. -/
def performAll (rig : Rig σ) (s : Scene σ) (deeds : List Deed) : Scene σ :=
  deeds.foldl (perform rig) s

/-- A waiting consumer is woken at the end of its wait, if that is an instant at all, or by a
delivery that is there already. -/
def rearm (rig : Rig σ) (s : Scene σ) : Scene σ :=
  match s.run? rig with
  | some ⟨ticker, _, _, .waiting⟩ =>
    let instant := s.clock + (ticker.next - s.clock)
    let s := if s.clock ≤ instant then
      { s with timers := s.timers ++ [⟨instant, .stir .wake⟩] } else s
    if s.awaits rig .wake then s.ready (.release .wake) else s
  | _ => s

/-- The consumer has moved on: carry out what it does and set the end of its wait. -/
def advanceTo (rig : Rig σ) (s : Scene σ) (moved : σ × List Deed) : Scene σ :=
  let timers := s.timers.filter (!·.job.isStir)
  ({ s with world := moved.1, timers }.performAll rig moved.2).rearm rig

/-- Ask a running consumer to stop, whatever it waits for. -/
def demand (rig : Rig σ) (s : Scene σ) (n : Nudge) : Scene σ :=
  if (s.run? rig).isSome then s.supplant Job.isStir (.stir n) else s

/-- A fault that ends the program stops everything else. -/
def interrupt (rig : Rig σ) (s : Scene σ) (f : Fault) : Scene σ :=
  if f.endsProgram then
    { s with interruption := some f, jobs := s.jobs.filter (!·.isHeed) }.demand rig .cancel
  else s

/-- A shutdown is asked for; whoever hears it for the first time passes it on. -/
def ring (rig : Rig σ) (s : Scene σ) : Scene σ :=
  match rig.ring s.world with
  | some (world, deeds) => ({ s with world }.performAll rig deeds).ready (.heed 2)
  | none => s

/-- The stream has an answer. -/
def answer (rig : Rig σ) (s : Scene σ) (got : Reception) : Scene σ :=
  let s := { s with world := (rig.step s.world (.received got)).1 }
  let s := if s.awaits rig .wake then s.ready (.release .wake) else s
  match got with
  | .failed f => s.interrupt rig f
  | _ => s

/-- Ask the stream. -/
def ask (rig : Rig σ) (s : Scene σ) : Scene σ :=
  let p := rig.poll s.world
  let s := { s.note p.entries with world := p.world }
  let s := if p.rang then s.ring rig else s
  match p.finding with
  | .blocked => s
  | .pause seconds => s.delay seconds .ask
  | .got r => s.answer rig r

/-- Stop asking the stream. -/
def stopAsking (rig : Rig σ) (s : Scene σ) : Scene σ :=
  let (world, entries, fault) := rig.stop s.world
  let s := { s.note entries with world }.ready (.release .receiveStopped)
  match fault with
  | some f => s.interrupt rig f
  | none => s

/-- Make the consumer go on. -/
def stir (rig : Rig σ) (s : Scene σ) : Nudge → Scene σ
  | .wake => s.advanceTo rig (rig.step s.world (.wake s.clock))
  | .reply entries r => (s.note entries).advanceTo rig (rig.step s.world (.replied r s.clock))
  | .receiveStopped => s.advanceTo rig (rig.step s.world .receiveStopped)
  | .cancel => s.advanceTo rig (rig.cancel s.world)
  | .notice => s.advanceTo rig (rig.notice s.world)

/-- Carry out a job. -/
def carryOut (rig : Rig σ) (s : Scene σ) : Job → Scene σ
  | .ask => s.ask rig
  | .stopAsking => s.stopAsking rig
  | .release n => if s.awaits rig n && !s.jobs.any Job.isStir then s.ready (.stir n) else s
  | .stir n => s.stir rig n
  | .heed (hops + 1) => s.ready (.heed hops)
  | .heed 0 => s.demand rig .notice

/-- Everything that can happen without time passing. -/
def rest (rig : Rig σ) : (fuel : Nat) → Scene σ → Scene σ
  | 0, s => s
  | fuel + 1, s =>
    match s.soon, s.jobs with
    | some sig, _ => rest rig fuel ({ s with soon := none }.advanceTo rig (rig.step s.world sig))
    | none, j :: jobs => rest rig fuel ({ s with jobs }.carryOut rig j)
    | none, [] => s

/-- More steps than a simulation makes between two instants. -/
def patience : Nat := 1000000

/-- Everything that can happen without time passing. -/
def settled (rig : Rig σ) (s : Scene σ) : Scene σ := s.rest rig patience

/-- The consumer asks its stream again, for which something has come, unless it is about to. -/
def offer (rig : Rig σ) (s : Scene σ) : Scene σ :=
  match s.run? rig with
  | some ⟨_, .pending, _, _⟩ =>
    if s.jobs.any Job.isAsk || s.timers.any (·.job.isAsk) then s else s.ready .ask
  | _ => s

/-- The instant of the next timer. -/
def nextTimer (s : Scene σ) : Option Float :=
  s.timers.foldl (fun earliest t => match earliest with
    | some instant => some (if t.instant < instant then t.instant else instant)
    | none => some t.instant) none

/-- Make ready what is due at an instant, the earliest first. -/
def fire (rig : Rig σ) (s : Scene σ) (now : Float) : Scene σ :=
  let (due, timers) := s.timers.partition (·.instant ≤ now)
  let jobs := (due.mergeSort fun t u => t.instant ≤ u.instant).map (·.job)
  { s with clock := now, timers, jobs := s.jobs ++ jobs }.settled rig

/-- Fire the timers up to an instant, the earliest first. -/
def upTo (rig : Rig σ) (limit : Float) : (fuel : Nat) → Scene σ → Scene σ
  | 0, s => s
  | fuel + 1, s =>
    match s.nextTimer with
    | some now => if now ≤ limit then upTo rig limit fuel (s.fire rig now) else s
    | none => s

/-- Let time pass. -/
def pass (rig : Rig σ) (s : Scene σ) (seconds : Float) : Scene σ :=
  let limit := s.clock + seconds
  { s.upTo rig limit patience with clock := limit }

/-- Let time pass as long as anything is to come. -/
def finish (rig : Rig σ) (s : Scene σ) : Scene σ := s.upTo rig (1.0 / 0.0) patience

end Scene
end Baler.Simulation
