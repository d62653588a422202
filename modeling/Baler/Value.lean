import Baler.AckMode
import Baler.Number.Shortest
import Baler.Text.Quoted

/-!
Values as they come from outside: configuration entries, raw delivery fields and log fields. A
value can be shown by itself or as a part of a larger value, where texts stand between quotes.
-/
namespace Baler

/-- A value from outside. -/
inductive Value
  | null
  | bool (b : Bool)
  | whole (n : Int)
  | real (x : Float)
  | text (s : String)
  | bytes (bytes : List UInt8)
  | mode (m : AckMode)
  | list (items : List Value)
  | table (entries : List (String × Value))

namespace Value

/-- The name of the kind of a value. -/
def kindName : Value → String
  | null => "NoneType"
  | bool _ => "bool"
  | whole _ => "int"
  | real _ => "float"
  | text _ => "str"
  | bytes _ => "bytes"
  | mode _ => "AckMode"
  | list _ => "list"
  | table _ => "dict"

/-- Whether a value counts as nothing: null, false, zero and whatever is empty. -/
def isVoid : Value → Bool
  | null => true
  | bool b => !b
  | whole n => n = 0
  | real x => x == 0
  | text s => s.isEmpty
  | bytes b => b.isEmpty
  | mode _ => false
  | list items => items.isEmpty
  | table entries => entries.isEmpty

/-- Digits and a power of ten as a text: positional from `10 ^ -4` up to `10 ^ 16`, with a point
and a mark for the power outside. -/
def decimalText (digits : Nat) (power : Int) : String :=
  let ds := String.ofList (Nat.toDigits 10 digits)
  let count : Int := ds.length
  let point := count + power
  if -4 < point ∧ point ≤ 16 then
    if 0 ≤ power then ds ++ String.ofList (List.replicate power.toNat '0') ++ ".0"
    else if 0 < point then
      String.ofList (ds.toList.take point.toNat) ++ "." ++ String.ofList (ds.toList.drop point.toNat)
    else "0." ++ String.ofList (List.replicate (-point).toNat '0') ++ ds
  else
    let e := point - 1
    let width := Nat.toDigits 10 e.natAbs
    let tail := String.ofList (ds.toList.drop 1)
    String.ofList (ds.toList.take 1) ++ (if tail.isEmpty then "" else "." ++ tail) ++ "e" ++
      (if e < 0 then "-" else "+") ++ (if width.length < 2 then "0" else "") ++ String.ofList width

/-- A double as the shortest decimal that reads back. -/
def realText (x : Float) : String :=
  match Number.Double.ofFloat x with
  | .notANumber => "nan"
  | .infinite negative => if negative then "-inf" else "inf"
  | .finite negative m e =>
    let (digits, power) := if m = 0 then (0, 0) else Number.dropZeros 17 (Number.shortest m e)
    (if negative then "-" else "") ++ decimalText digits power

/-- A value as a part of another. -/
def inner : Value → String
  | null => "None"
  | bool b => if b then "True" else "False"
  | whole n => toString n
  | real x => realText x
  | text s => Text.quote s
  | bytes b => Text.quoteBytes b
  | mode .batched => "<AckMode.BATCHED: 'batched'>"
  | mode .individual => "<AckMode.INDIVIDUAL: 'individual'>"
  | list items => "[" ++ ", ".intercalate (innerItems items) ++ "]"
  | table entries => "\x7b" ++ ", ".intercalate (innerEntries entries) ++ "\x7d"
where
  /-- The items of a list. -/
  innerItems : List Value → List String
    | [] => []
    | v :: rest => inner v :: innerItems rest
  /-- The entries of a table. -/
  innerEntries : List (String × Value) → List String
    | [] => []
    | (k, v) :: rest => (Text.quote k ++ ": " ++ inner v) :: innerEntries rest

/-- A value by itself. -/
def shown : Value → String
  | text s => s
  | mode .batched => "AckMode.BATCHED"
  | mode .individual => "AckMode.INDIVIDUAL"
  | v => v.inner

end Value
end Baler
