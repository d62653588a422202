import Baler.Value

/-!
Names that a partial failure may hold besides delivery ids. Names are compared by rank: numbers of
every kind as exact numbers, texts by their characters, byte strings by their bytes.
-/
namespace Baler

/-- What a name is compared by. -/
inductive Rank
  | null
  | number (d : Number.Double)
  | text (s : String)
  | bytes (bytes : List UInt8)

namespace Rank

/-- Whether two names are one. -/
def same : Rank → Rank → Bool
  | null, null => true
  | number d, number e => d.same e
  | text s, text t => s = t
  | bytes b, bytes c => b = c
  | _, _ => false

/-- Whether two names can be put in order. -/
def isOrdered : Rank → Rank → Bool
  | number _, number _ => true
  | text _, text _ => true
  | bytes _, bytes _ => true
  | _, _ => false

/-- Whether a name comes before another. -/
def less : Rank → Rank → Bool
  | number d, number e => d.less e
  | text s, text t => s < t
  | bytes b, bytes c => b < c
  | _, _ => false

end Rank

/-- The rank of a value; lists and tables are no names. -/
def Value.rank? : Value → Option Rank
  | .null => some .null
  | .bool b => some (.number (.ofInt (if b then 1 else 0)))
  | .whole n => some (.number (.ofInt n))
  | .real x => some (.number (.ofFloat x))
  | .text s => some (.text s)
  | .bytes b => some (.bytes b)
  | .mode m => some (.text m.name)
  | .list _ => none
  | .table _ => none

/-- A name that is no whole number. -/
inductive Stray
  | null
  | flag (b : Bool)
  | real (x : Float)
  | word (s : String)
  | bytes (bytes : List UInt8)
  | mode (m : AckMode)
deriving DecidableEq, Repr

namespace Stray

/-- A name as a value. -/
def toValue : Stray → Value
  | null => .null
  | flag b => .bool b
  | real x => .real x
  | word s => .text s
  | bytes b => .bytes b
  | mode m => .mode m

/-- The name that a value is. -/
def ofValue? : Value → Option Stray
  | .null => some null
  | .bool b => some (flag b)
  | .real x => some (real x)
  | .text s => some (word s)
  | .bytes b => some (bytes b)
  | .mode m => some (mode m)
  | _ => none

/-- Whether a name is the same as a delivery id. -/
def denotes (s : Stray) (id : Int) : Bool :=
  match s.toValue.rank? with
  | some r => r.same (.number (.ofInt id))
  | none => false

@[simp] theorem ofValue?_toValue (s : Stray) : ofValue? s.toValue = some s := by cases s <;> rfl

example : (flag true).denotes 1 = true ∧ (word "1").denotes 1 = false := by decide

end Stray
end Baler
