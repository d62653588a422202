import Baler.Fault
import Baler.Handle
import Baler.Stray

/-!
What a strategy answers about a batch, and the classification of the failed deliveries of a batch:
none of them is a success, all of them a total failure, anything in between a partial failure.
-/
namespace Baler

/-- The result of processing one batch. A partial failure names the failed deliveries; names that
are no delivery ids are kept apart. -/
inductive Outcome
  | success
  | partialFailure (failed : List Int) (strays : List Stray)
  | totalFailure
deriving DecidableEq, Repr

/-- Put an item into a sorted list. -/
def insertSorted {α : Type} [LT α] [DecidableLT α] (a : α) : List α → List α
  | [] => [a]
  | b :: rest => if b < a then b :: insertSorted a rest else a :: b :: rest

/-- The items in ascending order. -/
def sorted {α : Type} [LT α] [DecidableLT α] (xs : List α) : List α := xs.foldr insertSorted []

namespace Outcome

/-- The outcome for a batch of which the named deliveries failed; ids outside the batch are
dropped. -/
def ofFailures (batch : List Handle) (failed : List Int) : Outcome :=
  let hit := (distinctIds batch).filter (failed.contains ·)
  if hit = [] then .success
  else if hit = distinctIds batch then .totalFailure
  else .partialFailure hit []

/-- The names that a value holds. -/
def names? : Value → Except Fault (List Value)
  | .list items => .ok items
  | .text s => .ok (letters s)
  | .bytes bytes => .ok (bytes.map fun b => .whole b.toNat)
  | .mode m => .ok (letters m.name)
  | .table entries => .ok (entries.map fun e => .text e.1)
  | v => .error ⟨.type, s!"'{v.kindName}' object is not iterable"⟩
where
  /-- The characters of a text, each a text. -/
  letters (s : String) : List Value := s.toList.map fun c => .text (String.ofList [c])

/-- Whether two values are one name. -/
def sameName (v w : Value) : Bool :=
  match v.rank?, w.rank? with
  | some r, some t => r.same t
  | _, _ => false

/-- The names without those that have occurred before. -/
def distinctNames (names : List Value) : List Value :=
  names.foldl (fun kept v => if kept.any (sameName v) then kept else kept ++ [v]) []

/-- The delivery ids among the names of a value, and its other names. -/
def divideNames? (v : Value) : Except Fault (List Int × List Stray) := do
  let names ← names? v
  match names.find? (·.rank?.isNone) with
  | some w => throw ⟨.type, s!"unhashable type: '{w.kindName}'"⟩
  | none =>
    let names := distinctNames names
    return (names.filterMap id?, names.filterMap Stray.ofValue?)
where
  /-- A name that is a whole number. -/
  id? : Value → Option Int
    | .whole n => some n
    | _ => none

/-- The partial failure that holds the names of a value. -/
def ofNames? (v : Value) : Except Fault Outcome := do
  let (failed, strays) ← divideNames? v
  return .partialFailure failed strays

/-- Whether a delivery id is among names. -/
def holds (failed : List Int) (strays : List Stray) (id : Int) : Bool :=
  failed.contains id || strays.any (·.denotes id)

/-- The outcome for a batch of which the deliveries named by a value failed. Fewer names than
deliveries are kept as they are; otherwise the ids of the deliveries stand for them. -/
def ofNamedFailures? (batch : List Handle) (v : Value) : Except Fault Outcome := do
  let (failed, strays) ← divideNames? v
  let all := distinctIds batch
  let hit := all.filter (holds failed strays)
  if failed.length + strays.length < all.length ∧ hit ≠ [] then
    return .partialFailure (failed.filter all.contains) (strays.filter fun s => all.any s.denotes)
  else return .ofFailures batch hit

/-- Everything that a partial failure names, in ascending order. Names of different kinds cannot be
put in order. -/
def sortedNames (failed : List Int) (strays : List Stray) : Except Fault (List Value) :=
  match strays with
  | [] => .ok ((sorted failed).map Value.whole)
  | _ :: _ =>
    let (empty, others) := strays.partition (· = .null)
    inOrder (empty.map Stray.toValue ++ failed.map Value.whole ++ others.map Stray.toValue)
where
  /-- Whether a value comes before another. -/
  before (v w : Value) : Bool :=
    match v.rank?, w.rank? with
    | some r, some t => r.less t
    | _, _ => false
  /-- Whether two values can be put in order. -/
  agree (v w : Value) : Bool :=
    match v.rank?, w.rank? with
    | some r, some t => r.isOrdered t
    | _, _ => false
  /-- Values in ascending order. -/
  inOrder : List Value → Except Fault (List Value)
    | [] => .ok []
    | first :: rest =>
      match rest.find? (!agree first ·) with
      | some v => .error ⟨.type,
          s!"'<' not supported between instances of '{v.kindName}' and '{first.kindName}'"⟩
      | none => .ok ((first :: rest).mergeSort fun v w => !before w v)

@[simp] theorem holds_nil (failed : List Int) (id : Int) :
    holds failed [] id = failed.contains id := by
  simp [holds]

end Outcome
end Baler
