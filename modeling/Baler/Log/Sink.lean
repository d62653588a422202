import Baler.Fault
import Baler.Log.Record
import Baler.Text.Case

/-!
Where log records go. A sink lets through what is at least as severe as its threshold, with the
fields of a record only if it is structured.
-/
namespace Baler.Log

/-- The destination of the log. -/
structure Sink where
  threshold : Level
  structured : Bool
deriving DecidableEq, Repr

namespace Sink

/-- The sink with the given threshold, which may be written in any case. -/
def make? (level : String) (structured : Bool) : Except Fault Sink :=
  let name := Text.upper level
  match Level.named? name with
  | some l => .ok ⟨l, structured⟩
  | none => .error ⟨.value, s!"Level '{name}' does not exist"⟩

/-- The sink whose threshold is given as a value. -/
def ofValue? (level : Value) (structured : Bool) : Except Fault Sink :=
  match level with
  | .text s => make? s structured
  | .mode m => make? m.name structured
  | .bytes _ => .error ⟨.type,
      s!"Invalid level, it should be an integer or a string, not: '{level.kindName}'"⟩
  | v => .error ⟨.attribute, s!"'{v.kindName}' object has no attribute 'upper'"⟩

/-- Whether records of a level are let through. -/
def admits (s : Sink) (l : Level) : Bool := s.threshold.severity ≤ l.severity

/-- The records that are let through. -/
def emitted (s : Sink) (records : List Record) : List Record :=
  records.filter fun r => s.admits r.level

end Sink
end Baler.Log
