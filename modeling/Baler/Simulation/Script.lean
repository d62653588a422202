import Baler.Simulation.Entry

/-!
Strategies for simulations: the keyword strategy, or a script that prescribes one result after the
other and goes on with successes when it has run out.
-/
namespace Baler.Simulation

/-- The result of one call of a scripted strategy. -/
inductive Turn
  | answer (a : Settlement.Answer)
  | keyword (k : Keyword)

/-- A scripted result with the time that it takes. -/
structure Take where
  delay : Float
  turn : Turn

/-- A strategy that can be simulated. -/
inductive Script
  | keyword (k : Keyword)
  | takes (rest : List Take)

/-- What a strategy does on a batch: the entries it makes at once, the time it takes, the entries it
makes then, and its answer. -/
structure Performance where
  script : Script
  before : List Entry
  delay : Float
  after : List Entry
  answer : Settlement.Answer

namespace Script

/-- The judge that an assembly sees. -/
def judge : Script → Judge
  | keyword k => .keyword k
  | takes _ => .custom

/-- The log entries and the answer of the keyword strategy. -/
def judged (k : Keyword) (batch : List Handle) : List Entry × Settlement.Answer :=
  ((k.report batch).map .log, .outcome (k.judge batch))

/-- The entries and the answer of a scripted result. -/
def Turn.play (t : Turn) (batch : List Handle) : List Entry × Settlement.Answer :=
  match t with
  | .answer (.raised f) => ([], .raised f.leavingCall)
  | .answer a => ([], a)
  | .keyword k => judged k batch

/-- Judge a batch. -/
def perform (s : Script) (batch : List Handle) : Performance :=
  match s with
  | keyword k =>
    let (entries, answer) := judged k batch
    ⟨s, entries, 0, [], answer⟩
  | takes [] => ⟨s, [.cue (.strategy (ids batch))], 0, [], .outcome .success⟩
  | takes (t :: rest) =>
    let (entries, answer) := Turn.play t.turn batch
    ⟨.takes rest, [.cue (.strategy (ids batch))], t.delay, entries, answer⟩

end Script
end Baler.Simulation
