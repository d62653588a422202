import Baler.Text.PrintTable

/-!
Texts and byte strings between quotes. The quote is single unless the text holds a single quote
and no double one; whatever cannot be shown is written as an escape of two, four or eight digits.
-/
namespace Baler.Text

/-- Shown as itself between quotes. -/
def isPrintable (c : Char) : Bool := !covers unprintableSpans c.toNat

/-- A digit of a number to the base sixteen, in lower case. -/
def hexDigit (n : Nat) : Char :=
  if n < 10 then Char.ofNat (0x30 + n) else Char.ofNat (0x57 + n)

/-- The last `width` digits of a number to the base sixteen. -/
def hexDigits : (width : Nat) → Nat → List Char
  | 0, _ => []
  | w + 1, n => hexDigits w (n / 16) ++ [hexDigit (n % 16)]

/-- The escape of a code point, as short as it can be. -/
def escapeCode (n : Nat) : List Char :=
  if n < 0x100 then '\\' :: 'x' :: hexDigits 2 n
  else if n < 0x10000 then '\\' :: 'u' :: hexDigits 4 n
  else '\\' :: 'U' :: hexDigits 8 n

/-- One character between the given quotes. -/
def quoteChar (mark : Char) (c : Char) : List Char :=
  if c = mark ∨ c = '\\' then ['\\', c]
  else if c = '\n' then ['\\', 'n']
  else if c = '\r' then ['\\', 'r']
  else if c = '\t' then ['\\', 't']
  else if isPrintable c then [c]
  else escapeCode c.toNat

/-- The quote for a text. -/
def quoteMark (cs : List Char) : Char :=
  if cs.contains '\'' && !cs.contains '"' then '"' else '\''

/-- A text between quotes. -/
def quoteChars (cs : List Char) : List Char :=
  quoteMark cs :: cs.flatMap (quoteChar (quoteMark cs)) ++ [quoteMark cs]

/-- A text between quotes. -/
def quote (s : String) : String := String.ofList (quoteChars s.toList)

/-- A byte between the given quotes: only printable characters of the first 128 stand for
themselves. -/
def quoteByte (mark : Char) (b : UInt8) : List Char :=
  if b.toNat < 0x80 then quoteChar mark (Char.ofNat b.toNat) else escapeCode b.toNat

/-- A byte string between quotes, marked as one. -/
def quoteBytes (bytes : List UInt8) : String :=
  let mark := quoteMark (bytes.map fun b => Char.ofNat b.toNat)
  String.ofList ('b' :: mark :: bytes.flatMap (quoteByte mark) ++ [mark])

example : quoteChars ['a', '\''] = ['"', 'a', '\'', '"'] := by decide +kernel

example : quoteChars ['\x07'] = ['\'', '\\', 'x', '0', '7', '\''] := by decide +kernel

end Baler.Text
