/-!
Severity levels of log records, from `trace` to `critical`.
-/
namespace Baler.Log

/-- How severe a record is. -/
inductive Level
  | trace
  | debug
  | info
  | success
  | warning
  | error
  | critical
deriving DecidableEq, Repr

namespace Level

/-- Every level, the least severe first. -/
def all : List Level := [trace, debug, info, success, warning, error, critical]

/-- The number by which levels are compared. -/
def severity : Level → Nat
  | trace => 5
  | debug => 10
  | info => 20
  | success => 25
  | warning => 30
  | error => 40
  | critical => 50

/-- The name under which a level is set and shown. -/
def name : Level → String
  | trace => "TRACE"
  | debug => "DEBUG"
  | info => "INFO"
  | success => "SUCCESS"
  | warning => "WARNING"
  | error => "ERROR"
  | critical => "CRITICAL"

/-- The level of a name. -/
def named? (s : String) : Option Level := all.find? (·.name = s)

theorem named?_name (l : Level) : named? l.name = some l := by cases l <;> decide

end Level
end Baler.Log
