/-!
Doubles as exact numbers. A finite double is a sign, a whole mantissa and a power of two, and all
conversions go through that form.
-/
namespace Baler.Number

/-- What a double is. -/
inductive Double
  | finite (negative : Bool) (mantissa : Nat) (exponent : Int)
  | infinite (negative : Bool)
  | notANumber
deriving DecidableEq, Repr

/-- Take a double apart. -/
def Double.ofFloat (x : Float) : Double :=
  let bits := x.toBits.toNat
  let negative := 0x8000000000000000 ≤ bits
  let biased := bits / 0x10000000000000 % 0x800
  let fraction := bits % 0x10000000000000
  if biased = 0x7ff then (if fraction = 0 then .infinite negative else .notANumber)
  else if biased = 0 then .finite negative fraction (-1074)
  else .finite negative (0x10000000000000 + fraction) ((biased : Int) - 1075)

/-- The whole part of `mantissa · 2 ^ exponent`. -/
def wholePart (mantissa : Nat) : Int → Nat
  | .ofNat e => mantissa * Nat.pow 2 e
  | .negSucc e => mantissa / Nat.pow 2 (e + 1)

/-- Whether `mantissa · 2 ^ exponent` is whole. -/
def isWholeAt (mantissa : Nat) : Int → Bool
  | .ofNat _ => true
  | .negSucc e => mantissa % Nat.pow 2 (e + 1) = 0

/-- A double is whole if it is finite and has no fraction. -/
def Double.isWhole : Double → Bool
  | .finite _ m e => isWholeAt m e
  | _ => false

/-- A finite double cut towards zero. -/
def Double.truncate? : Double → Option Int
  | .finite negative m e => some (if negative then -(wholePart m e : Int) else wholePart m e)
  | _ => none

/-- A whole number in the form of a double. -/
def Double.ofInt (n : Int) : Double := .finite (n < 0) n.natAbs 0

/-- A finite double in units of `2 ^ low`, for `low` not above its exponent. -/
def units (low : Int) (negative : Bool) (mantissa : Nat) (exponent : Int) : Int :=
  let size := mantissa * Nat.pow 2 (exponent - low).toNat
  if negative then -(size : Int) else size

/-- Whether a number is less than another. -/
def Double.less : Double → Double → Bool
  | .finite s m e, .finite t n f => units (min e f) s m e < units (min e f) t n f
  | .finite .., .infinite t => !t
  | .infinite s, .finite .. => s
  | .infinite s, .infinite t => s && !t
  | _, _ => false

/-- Whether two numbers are equal. -/
def Double.same : Double → Double → Bool
  | .notANumber, _ => false
  | _, .notANumber => false
  | a, b => !a.less b && !b.less a

/-- The double nearest to a whole number, unless the number lies beyond all of them. -/
def nearest? (n : Int) : Option Float :=
  let x := Float.ofInt n
  if x.isInf then none else some x

@[simp] theorem units_natAbs (n : Int) : units 0 (n < 0) n.natAbs 0 = n := by
  have size : n.natAbs * Nat.pow 2 ((0 : Int) - 0).toNat = n.natAbs := Nat.mul_one _
  simp only [units, size, decide_eq_true_eq]
  split <;> omega

example : (Double.finite false 3 (-1)).less (.ofInt 2) = true := by decide

example : (Double.finite false 8 (-2)).same (.ofInt 2) = true := by decide

end Baler.Number
