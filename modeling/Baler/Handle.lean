/-!
Handles of delivered messages. A message is settled through the broker channel by its delivery id,
never through the message itself.
-/
namespace Baler

/-- One delivered message. -/
structure Handle where
  id : Int
  payload : List UInt8
  route : String
deriving DecidableEq, Repr

/-- The delivery ids of a batch, in order. -/
def ids (batch : List Handle) : List Int := batch.map (·.id)

/-- The delivery ids of a batch in order of first occurrence. -/
def distinctIds (batch : List Handle) : List Int := (ids batch).eraseDups

@[simp] theorem ids_nil : ids [] = [] := rfl

@[simp] theorem ids_cons (h : Handle) (batch : List Handle) : ids (h :: batch) = h.id :: ids batch :=
  rfl

theorem mem_distinctIds {batch : List Handle} {id : Int} : id ∈ distinctIds batch ↔ id ∈ ids batch := by
  simp [distinctIds]

/-- The largest id of a batch with the given first id. -/
def largestId (first : Int) (rest : List Handle) : Int := rest.foldl (fun m h => max m h.id) first

end Baler
