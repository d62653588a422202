import Baler.Handle
import Baler.Policy

/-!
The buffer of a consumer: deliveries in order of arrival until they are drained as one batch. The
buffer tells when it is full but does not refuse deliveries.
-/
namespace Baler

/-- Deliveries that wait for their batch. -/
structure Buffer where
  limit : Quantity
  items : List Handle

namespace Buffer

/-- The empty buffer with the given limit. -/
def make? (limit : Value) : Except Fault Buffer :=
  let checked (q : Quantity) : Except Fault Buffer :=
    if q.isSpent then .error ⟨.value, "max_batch_size must be positive"⟩ else .ok ⟨q, []⟩
  match limit with
  | .whole n => checked (.whole n)
  | .real x => checked (.real x)
  | .bool b => checked (.whole (if b then 1 else 0))
  | v => .error ⟨.type,
      s!"'<=' not supported between instances of '{v.kindName}' and 'int'"⟩

/-- The empty buffer for a policy. -/
def ofPolicy (p : Policy) : Buffer := ⟨.whole p.capacity, []⟩

/-- The number of deliveries. -/
def size (b : Buffer) : Nat := b.items.length

/-- Append a delivery. -/
def add (b : Buffer) (h : Handle) : Buffer := { b with items := b.items ++ [h] }

/-- Whether the deliveries make a batch. -/
def isReady (b : Buffer) : Bool := b.limit.reachedBy b.size

/-- Whether there are no deliveries. -/
def isEmpty (b : Buffer) : Bool := b.items.isEmpty

/-- The buffer without its deliveries. -/
def drained (b : Buffer) : Buffer := { b with items := [] }

@[simp] theorem items_add (b : Buffer) (h : Handle) : (b.add h).items = b.items ++ [h] := rfl

@[simp] theorem size_add (b : Buffer) (h : Handle) : (b.add h).size = b.size + 1 := by simp [size]

@[simp] theorem items_drained (b : Buffer) : b.drained.items = [] := rfl

theorem isEmpty_iff (b : Buffer) : b.isEmpty = true ↔ b.items = [] := by simp [isEmpty]

end Buffer
end Baler
