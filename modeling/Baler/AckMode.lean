/-!
How a batch that was processed in full is acknowledged.
-/
namespace Baler

/-- One acknowledgement for the whole batch, or one for every delivery. -/
inductive AckMode
  | batched
  | individual
deriving DecidableEq, Repr

/-- The name of a mode in a configuration. -/
def AckMode.name : AckMode → String
  | .batched => "batched"
  | .individual => "individual"

/-- The mode of a name. -/
def AckMode.named? (s : String) : Option AckMode :=
  if s = "batched" then some .batched else if s = "individual" then some .individual else none

@[simp] theorem AckMode.named?_name (m : AckMode) : AckMode.named? m.name = some m := by
  cases m <;> decide

end Baler
