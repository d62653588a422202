import Baler.Text.Utf8

/-!
Percent encoding of a part of an address. Letters, digits and the marks `-`, `.`, `_`, `~` stand
for themselves; every other byte of the text is written as `%` and two digits.
-/
namespace Baler.Text.Percent

/-- Bytes that need no encoding. -/
def isUnreserved (b : UInt8) : Bool :=
  let n := b.toNat
  (0x30 ≤ n && n ≤ 0x39) || (0x41 ≤ n && n ≤ 0x5a) || (0x61 ≤ n && n ≤ 0x7a) ||
    n == 0x2d || n == 0x2e || n == 0x5f || n == 0x7e

/-- A digit to the base sixteen, in upper case. -/
def digit (n : Nat) : Char :=
  if n < 10 then Char.ofNat (0x30 + n) else Char.ofNat (0x37 + n)

/-- One byte of an encoded text. -/
def encodeByte (b : UInt8) : List Char :=
  if isUnreserved b then [Char.ofNat b.toNat] else ['%', digit (b.toNat / 16), digit (b.toNat % 16)]

/-- A text encoded byte by byte. -/
def encode (cs : List Char) : List Char := (Utf8.encode cs).flatMap encodeByte

/-- The value of a digit to the base sixteen, in either case. -/
def digitValue? (c : Char) : Option Nat :=
  let n := c.toNat
  if 0x30 ≤ n ∧ n ≤ 0x39 then some (n - 0x30)
  else if 0x41 ≤ n ∧ n ≤ 0x46 then some (n - 0x37)
  else if 0x61 ≤ n ∧ n ≤ 0x66 then some (n - 0x57)
  else none

/-- The bytes of an encoded text; a `%` without two digits after it stands for itself. -/
def decodeBytes : List Char → List UInt8
  | '%' :: a :: b :: rest =>
    match digitValue? a, digitValue? b with
    | some x, some y => (x * 16 + y).toUInt8 :: decodeBytes rest
    | _, _ => 0x25 :: decodeBytes (a :: b :: rest)
  | c :: rest => Utf8.encodeChar c ++ decodeBytes rest
  | [] => []

/-- The text that an encoded text stands for, if its bytes are those of a text. -/
def decode? (cs : List Char) : Option (List Char) := Utf8.decode? (decodeBytes cs)

example : encode ['a', '/', 'é'] = ['a', '%', '2', 'F', '%', 'C', '3', '%', 'A', '9'] := by decide

example : decode? ['a', '%', '2', 'f', '%', 'C', '3', '%', 'a', '9'] = some ['a', '/', 'é'] := by
  decide

end Baler.Text.Percent
