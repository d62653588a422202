import Baler.Fault
import Baler.Number.Numeral
import Baler.Value

/-!
Raw delivery fields as whole numbers and as byte strings. A text or byte string is read as a
numeral, a double is cut towards zero; a number stands for that many zero bytes and a list for its
items.
-/
namespace Baler.Value

/-- The longest part of a malformed numeral that is shown. -/
def shownNumeral : Nat := 200

/-- The fault for a numeral, shown between quotes. -/
def numeralFault (shown : String) : Number.Numeral → Except Fault Int
  | .number n => .ok n
  | .tooLong digits => .error ⟨.value, Number.limitText s!": value has {digits} digits"⟩
  | .malformed => .error ⟨.value, "invalid literal for int() with base 10: " ++
      String.ofList (shown.toList.take shownNumeral)⟩

/-- A value as a whole number. -/
def toWhole? : Value → Except Fault Int
  | whole n => .ok n
  | bool b => .ok (if b then 1 else 0)
  | real x =>
    match (Number.Double.ofFloat x).truncate?, x.isNaN with
    | some n, _ => .ok n
    | none, true => .error ⟨.value, "cannot convert float NaN to integer"⟩
    | none, false => .error ⟨.overflow, "cannot convert float infinity to integer"⟩
  | text s => numeralFault (Text.quote s) (.ofText s)
  | bytes b => numeralFault (Text.quoteBytes b) (.ofBytes b)
  | mode m => numeralFault (mode m).inner (.ofText m.name)
  | v => .error ⟨.type, "int() argument must be a string, a bytes-like object or a real number, " ++
      s!"not '{v.kindName}'"⟩

/-- The largest number that counts as an amount of bytes. -/
def maxCount : Int := 0x7fffffffffffffff

/-- What a byte string takes besides its bytes. -/
def bytesOverhead : Int := 33

/-- The longest byte string for which there is memory. -/
def memoryLimit : Int := 0x80000000

/-- That many zero bytes. -/
def zeroBytes? (n : Int) : Except Fault (List UInt8) :=
  if n < -(maxCount + 1) ∨ maxCount < n then
    .error ⟨.overflow, "cannot fit 'int' into an index-sized integer"⟩
  else if n < 0 then .error ⟨.value, "negative count"⟩
  else if maxCount - bytesOverhead < n then .error ⟨.overflow, "byte string is too large"⟩
  else if memoryLimit < n then .error ⟨.other "MemoryError", ""⟩
  else .ok (List.replicate n.toNat 0)

/-- A value as one byte. -/
def toByte? : Value → Except Fault UInt8
  | whole n =>
    if 0 ≤ n ∧ n < 256 then .ok n.toNat.toUInt8
    else .error ⟨.value, "bytes must be in range(0, 256)"⟩
  | bool b => .ok (if b then 1 else 0)
  | v => .error ⟨.type, s!"'{v.kindName}' object cannot be interpreted as an integer"⟩

/-- A value as a byte string. -/
def toBytes? : Value → Except Fault (List UInt8)
  | bytes b => .ok b
  | whole n => zeroBytes? n
  | bool b => zeroBytes? (if b then 1 else 0)
  | list items => items.mapM toByte?
  | table entries => entries.mapM fun e => toByte? (.text e.1)
  | text _ => .error ⟨.type, "string argument without an encoding"⟩
  | mode _ => .error ⟨.type, "string argument without an encoding"⟩
  | v => .error ⟨.type, s!"cannot convert '{v.kindName}' object to bytes"⟩

end Baler.Value
