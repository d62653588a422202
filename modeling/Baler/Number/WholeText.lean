import Baler.Number.Numeral

/-!
Whole numbers in texts that people write. A text that is a plain numeral is read as it stands; any
other text is tidied once, and then has to be one. Only an untidied run of digits can be too long.
-/
namespace Baler.Number

/-- One of the ten plain digits. -/
def isPlainDigit (c : Char) : Bool := (plainDigit? c).isSome

/-- The first character of a plain numeral other than zero. -/
def beginsNumeral (c : Char) : Bool := c = '-' || (isPlainDigit c && c ≠ '0')

/-- The minus in front, and the rest. -/
def splitMinus : List Char → Bool × List Char
  | '-' :: rest => (true, rest)
  | cs => (false, cs)

/-- Read a plain numeral: a minus or nothing, then a lone zero or digits of which the first is none.
A run that is too long together with its sign is told apart, whatever follows it. -/
def Numeral.ofPlain (cs : List Char) : Numeral :=
  let (negative, body) := splitMinus cs
  let run := body.takeWhile isPlainDigit
  if body = ['0'] then .number 0
  else if run.isEmpty || run.head? == some '0' then .malformed
  else if maxDigits < run.length + (if negative then 1 else 0) then .tooLong run.length
  else if run.length < body.length then .malformed
  else .make negative (run.filterMap plainDigit?)

/-- A text without the plus in front, which no minus may follow. -/
def dropPlus? : List Char → Option (List Char)
  | '+' :: '-' :: _ => none
  | '+' :: rest => some rest
  | cs => some cs

/-- What follows a row of zeros and underscores, of which `last` was the last: a numeral that does
not begin with zero, or else that last character with a fraction or with nothing. -/
def afterZeros? (last : Char) : List Char → Option (List Char)
  | [] => some [last]
  | c :: rest =>
    if c = '0' ∨ c = '_' then afterZeros? c rest
    else if beginsNumeral c then some (c :: rest)
    else if c = '.' then some (last :: c :: rest)
    else none

/-- A text without the zeros in front. -/
def dropZeros? : List Char → Option (List Char)
  | [] => none
  | c :: rest =>
    if c = '0' then afterZeros? c rest else if beginsNumeral c then some (c :: rest) else none

/-- A text without the point and the zeros that it may end in. -/
def dropZeroFraction (cs : List Char) : List Char :=
  match cs.span (· ≠ '.') with
  | (whole, '.' :: '0' :: zeros) => if zeros.all (· = '0') then whole else cs
  | _ => cs

/-- Whether every underscore stands between two other characters; where `due` holds the next
character has to be another one. -/
def separates : (due : Bool) → List Char → Bool
  | due, [] => !due
  | due, c :: rest => if c = '_' then !due && separates true rest else separates false rest

/-- A text without the underscores that separate its digits. -/
def dropSeparators (cs : List Char) : List Char :=
  if separates true cs then cs.filter (· ≠ '_') else cs

/-- A text without blanks, plus, leading zeros, zero fraction and separators. -/
def tidied? (cs : List Char) : Option (List Char) := do
  let cs ← dropPlus? (Text.trimWhere Text.isSpace cs)
  let cs ← dropZeros? cs
  return dropSeparators (dropZeroFraction cs)

/-- Read a text as a whole number. -/
def Numeral.ofWholeText (s : String) : Numeral :=
  match ofPlain s.toList, (tidied? s.toList).map ofPlain with
  | .malformed, some (.number n) => .number n
  | .malformed, _ => .malformed
  | numeral, _ => numeral

example : Numeral.ofWholeText "007" = .number 7 := by decide +kernel

example : tidied? ['0', '_', '-', '1'] = some ['-', '1'] ∧ tidied? ['+', '-', '1'] = none := by
  decide

example : dropZeroFraction ['5', '.', '0'] = ['5'] ∧ dropZeroFraction ['5', '.'] = ['5', '.'] := by
  decide

end Baler.Number
