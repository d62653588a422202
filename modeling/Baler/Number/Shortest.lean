import Baler.Number.Double

/-!
The shortest decimal that reads back as a double. A double stands for an interval of numbers, ends
included when its mantissa is even; of the decimal grids with 1, 2, … 17 digits the first one with
a point in the interval gives the digits, and of two such points the nearer one.
-/
namespace Baler.Number

/-- A number as a fraction, with the ends of the interval that rounds to it, all over one
denominator. -/
structure Rounding where
  low : Nat
  value : Nat
  high : Nat
  scale : Nat
  closed : Bool

/-- The interval of `mantissa · 2 ^ exponent`; below a power of two the gap is half as wide. -/
def Rounding.ofDouble (mantissa : Nat) (exponent : Int) : Rounding :=
  let below := if mantissa = 0x10000000000000 ∧ exponent ≠ -1074 then 1 else 2
  let up := Nat.pow 2 (exponent - 2).toNat
  ⟨(4 * mantissa - below) * up, 4 * mantissa * up, (4 * mantissa + 2) * up,
    Nat.pow 2 (2 - exponent).toNat, mantissa % 2 = 0⟩

/-- The number of decimal digits. -/
def digitCount (n : Nat) : Nat := (Nat.toDigits 10 n).length

/-- The power of ten of the leading digit. -/
def Rounding.magnitude (r : Rounding) : Int :=
  if r.scale ≤ r.value then (digitCount (r.value / r.scale) : Int) - 1
  else
    let k := digitCount (r.scale / r.value)
    if r.scale ≤ r.value * Nat.pow 10 (k - 1) then 1 - (k : Int) else -(k : Int)

/-- Whether `digits · 10 ^ power` rounds to the value. -/
def Rounding.admits (r : Rounding) (digits : Nat) (power : Int) : Bool :=
  let x := digits * Nat.pow 10 power.toNat * r.scale
  let ten := Nat.pow 10 (-power).toNat
  if r.closed then r.low * ten ≤ x && x ≤ r.high * ten else r.low * ten < x && x < r.high * ten

/-- The admitted point of the grid of `10 ^ power` that is nearest to the value. -/
def Rounding.point? (r : Rounding) (power : Int) : Option Nat :=
  let ten := Nat.pow 10 (-power).toNat
  let unit := Nat.pow 10 power.toNat * r.scale
  let under := r.value * ten / unit
  match r.admits under power, r.admits (under + 1) power with
  | false, false => none
  | true, false => some under
  | false, true => some (under + 1)
  | true, true =>
    let twice := 2 * (r.value * ten % unit)
    if twice < unit ∨ (twice = unit ∧ under % 2 = 0) then some under else some (under + 1)

/-- The digits and the power of ten of the first grid, from `count` digits on, with a point. -/
def Rounding.search (r : Rounding) (top : Int) : (fuel : Nat) → (count : Int) → Nat × Int
  | 0, count => (r.value / r.scale, top - count + 1)
  | fuel + 1, count =>
    match r.point? (top - count + 1) with
    | some digits => (digits, top - count + 1)
    | none => r.search top fuel (count + 1)

/-- The digits and the power of ten of the shortest decimal of a positive double. -/
def shortest (mantissa : Nat) (exponent : Int) : Nat × Int :=
  let r := Rounding.ofDouble mantissa exponent
  r.search r.magnitude 17 1

/-- Digits without the zeros at the end, which go into the power. -/
def dropZeros : (fuel : Nat) → Nat × Int → Nat × Int
  | 0, d => d
  | fuel + 1, (n, p) => if n % 10 = 0 then dropZeros fuel (n / 10, p + 1) else (n, p)

end Baler.Number
