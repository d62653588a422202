import Baler.Simulation.Line
import Baler.Simulation.Scene

/-!
Worlds whose consumer reads a stream of a broker line. It is enough to say how such a world shows
its reader and takes back what the reader has changed.
-/
namespace Baler.Simulation

/-- A world with a reader of a broker line. -/
structure OnLine (σ : Type) where
  reader? : σ → Option Reader
  restore : σ → Reader → σ

namespace OnLine

variable {σ : Type}

/-- The reader of a station's stream. -/
def stationReader? (a : Assembly Float) (station : Nat) (stream : Amqp.Stream) (line : Line) :
    Option Reader :=
  a.stations[station]?.map fun s =>
    ⟨s.channel, ((a.consumer? station).map (·.queue)).getD "", stream, line⟩

/-- Ask the stream for its next delivery. -/
def poll (o : OnLine σ) (w : σ) : Poll σ :=
  match o.reader? w with
  | none => ⟨w, [], .blocked, false⟩
  | some r =>
    let p := r.poll
    ⟨o.restore w p.world, p.entries, p.finding, p.rang⟩

/-- Let the reader of a world act. -/
def act (o : OnLine σ) (w : σ) (f : Reader → Reader × List Entry × Option Fault) :
    σ × List Entry × Option Fault :=
  match o.reader? w with
  | none => (w, [], none)
  | some r =>
    let (q, entries, fault) := f r
    (o.restore w q, entries, fault)

/-- Stop the request for a delivery. -/
def stop (o : OnLine σ) (w : σ) : σ × List Entry × Option Fault := o.act w Reader.stop

/-- Close the stream. -/
def close (o : OnLine σ) (w : σ) : σ × List Entry × Option Fault := o.act w Reader.close

/-- Settle deliveries through the channel. -/
def settle (o : OnLine σ) (w : σ) (c : Settlement.Call) : Settled σ :=
  match o.reader? w with
  | none => ⟨w, [], 0, none⟩
  | some r =>
    let q := r.settle c
    ⟨o.restore w q.world, q.entries, q.delay, q.fault⟩

end OnLine
end Baler.Simulation
