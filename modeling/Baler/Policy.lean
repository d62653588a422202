import Baler.Fault
import Baler.Number.Double
import Baler.Text.Blank
import Baler.Text.Case
import Baler.Value

/-!
The batching policy of a consumer: how many deliveries make a batch, how long a delivery may wait
for its batch, and how full batches are acknowledged. Entries are checked in that order.
-/
namespace Baler

/-- A measure given as a whole number or as a double. -/
inductive Quantity
  | whole (n : Int)
  | real (x : Float)

namespace Quantity

/-- Whether a quantity compares as zero or below. -/
def isSpent : Quantity → Bool
  | whole n => n ≤ 0
  | real x => x ≤ 0

/-- Whether a quantity compares as greater than zero. -/
def isPositive : Quantity → Bool
  | whole n => 0 < n
  | real x => 0 < x

/-- Whether a count has reached a quantity. -/
def reachedBy (n : Nat) : Quantity → Bool
  | whole limit => limit ≤ n
  | real limit => limit ≤ Float.ofNat n

/-- A quantity as a double, unless it is a whole number beyond all doubles. -/
def toFloat : Quantity → Except Fault Float
  | whole n =>
    match Number.nearest? n with
    | some x => .ok x
    | none => .error ⟨.overflow, "int too large to convert to float"⟩
  | real x => .ok x

/-- A quantity as a value. -/
def toValue : Quantity → Value
  | whole n => .whole n
  | real x => .real x

@[simp] theorem reachedBy_whole (n : Nat) (limit : Int) :
    (whole limit).reachedBy n = decide (limit ≤ n) := rfl

end Quantity

/-- The batching policy of one consumer. -/
structure Policy where
  capacity : Nat
  wait : Quantity
  mode : AckMode
  capacity_pos : 0 < capacity

namespace Policy

/-- The capacity of a batch from its entry. -/
def capacity? : Value → Except Fault { n : Nat // 0 < n }
  | .whole n =>
    if h : 0 < n then .ok ⟨n.toNat, by omega⟩
    else .error ⟨.value, "max_batch_size must be positive"⟩
  | _ => .error ⟨.type, "max_batch_size must be an int"⟩

/-- The longest wait from its entry. -/
def wait? (v : Value) : Except Fault Quantity :=
  let checked (q : Quantity) : Except Fault Quantity :=
    if q.isSpent then .error ⟨.value, "max_wait_time must be positive"⟩ else .ok q
  match v with
  | .whole n => checked (.whole n)
  | .real x => checked (.real x)
  | _ => .error ⟨.type, "max_wait_time must be a number of seconds"⟩

/-- The acknowledgement mode from its entry: a mode, or anything that shows as the name of one in
any case and with blanks around it. -/
def mode? : Value → Except Fault AckMode
  | .mode m => .ok m
  | v =>
    let name := Text.lower (Text.trim v.shown)
    match AckMode.named? name with
    | some m => .ok m
    | none => .error ⟨.value, s!"{Text.quote name} is not a valid AckMode"⟩

/-- The policy with the given entries. -/
def make? (size wait mode : Value) : Except Fault Policy := do
  let ⟨capacity, capacity_pos⟩ ← capacity? size
  let wait ← wait? wait
  let mode ← mode? mode
  return { capacity, wait, mode, capacity_pos }

/-- The capacity where none is given. -/
def standardCapacity : Nat := 10

/-- The policy where nothing is given: ten deliveries, a tenth of a second, one ack each. -/
def standard : Policy := ⟨standardCapacity, .real 0.1, .individual, by decide⟩

/-- The policy with the given entries, and the standard for those that are missing. -/
def ofEntries? (size wait mode : Option Value) : Except Fault Policy :=
  make? (size.getD (.whole standardCapacity)) (wait.getD standard.wait.toValue)
    (mode.getD (.mode standard.mode))

end Policy
end Baler
