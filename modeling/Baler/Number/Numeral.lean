import Baler.Number.DigitTable
import Baler.Text.Blank

/-!
Reading whole numbers. A numeral is an optional sign and digits, between which single underscores
may stand; blanks around it are ignored and at most `maxDigits` digits are converted.
-/
namespace Baler.Number

/-- The value of one of the ten plain digits. -/
def plainDigit? (c : Char) : Option Nat :=
  if 0x30 ≤ c.toNat ∧ c.toNat ≤ 0x39 then some (c.toNat - 0x30) else none

/-- The value of a digit of any script. -/
def anyDigit? (c : Char) : Option Nat :=
  match plainDigit? c with
  | some d => some d
  | none => (zeros.find? fun z => z ≤ c.toNat && c.toNat ≤ z + 9).map (c.toNat - ·)

/-- The values of a row of digits; where `due` holds the next character has to be one. -/
def digits? (value : Char → Option Nat) : (due : Bool) → List Char → Option (List Nat)
  | due, [] => if due then none else some []
  | due, c :: rest =>
    if c = '_' then (if due then none else digits? value true rest)
    else match value c with
      | some d => (digits? value false rest).map (d :: ·)
      | none => none

/-- The number that a row of digits stands for. -/
def ofDigits (ds : List Nat) : Nat := ds.foldl (fun n d => 10 * n + d) 0

/-- The sign in front, and the rest. -/
def splitSign : List Char → Bool × List Char
  | '-' :: rest => (true, rest)
  | '+' :: rest => (false, rest)
  | cs => (false, cs)

/-- The longest numeral that is converted. -/
def maxDigits : Nat := 4300

/-- What is said of a number with more digits. -/
def limitText (detail : String) : String :=
  s!"Exceeds the limit ({maxDigits} digits) for integer string conversion" ++ detail ++
    "; use sys.set_int_max_str_digits() to increase the limit"

/-- What a text is as a numeral. -/
inductive Numeral
  | number (n : Int)
  | tooLong (digits : Nat)
  | malformed
deriving DecidableEq, Repr

/-- The numeral with the given sign and digits. -/
def Numeral.make (negative : Bool) (ds : List Nat) : Numeral :=
  if maxDigits < ds.length then .tooLong ds.length
  else .number (if negative then -(ofDigits ds : Int) else ofDigits ds)

/-- Read a text without blanks around it. -/
def Numeral.read (value : Char → Option Nat) (cs : List Char) : Numeral :=
  let (negative, body) := splitSign cs
  match digits? value true body with
  | some ds => .make negative ds
  | none => .malformed

/-- Read a text with digits of any script. -/
def Numeral.ofText (s : String) : Numeral := .read anyDigit? (Text.trimWhere Text.isSpace s.toList)

/-- Blank in a byte string. -/
def isBlankByte (c : Char) : Bool := c.toNat == 0x20 || (9 ≤ c.toNat && c.toNat ≤ 0xd)

/-- Read a byte string, of which each byte is one character. -/
def Numeral.ofBytes (bytes : List UInt8) : Numeral :=
  .read plainDigit? (Text.trimWhere isBlankByte (bytes.map fun b => Char.ofNat b.toNat))

example : digits? plainDigit? true ['1', '_', '0'] = some [1, 0] := by decide

example : digits? plainDigit? true ['1', '_', '_', '0'] = none := by decide

end Baler.Number
