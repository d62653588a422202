/-!
What can be wrong with one entry of the settings, and collecting all of it: entries are checked
independently of each other, and every issue is reported in the order of the entries.
-/
namespace Baler.Settings

/-- What is wrong with an entry. -/
inductive Cause
  | missing
  | notANumeral
  | numeralTooLong
  | fractional
  | notFinite
  | notWhole
  | notPositive
  | notAFlagWord
  | notAFlag
  | notText
  | notUtf8
  | notAMode
deriving DecidableEq, Repr

/-- The code of a cause. -/
def Cause.code : Cause → String
  | .missing => "missing"
  | .notANumeral => "int_parsing"
  | .numeralTooLong => "int_parsing_size"
  | .fractional => "int_from_float"
  | .notFinite => "finite_number"
  | .notWhole => "int_type"
  | .notPositive => "greater_than"
  | .notAFlagWord => "bool_parsing"
  | .notAFlag => "bool_type"
  | .notText => "string_type"
  | .notUtf8 => "string_unicode"
  | .notAMode => "enum"

/-- A cause in words. -/
def Cause.message : Cause → String
  | .missing => "Field required"
  | .notANumeral => "Input should be a valid integer, unable to parse string as an integer"
  | .numeralTooLong => "Unable to parse input string as an integer, exceeded maximum size"
  | .fractional => "Input should be a valid integer, got a number with a fractional part"
  | .notFinite => "Input should be a finite number"
  | .notWhole => "Input should be a valid integer"
  | .notPositive => "Input should be greater than 0"
  | .notAFlagWord => "Input should be a valid boolean, unable to interpret input"
  | .notAFlag => "Input should be a valid boolean"
  | .notText => "Input should be a valid string"
  | .notUtf8 => "Input should be a valid string, unable to parse raw data as a unicode string"
  | .notAMode => "Input should be 'batched' or 'individual'"

/-- What is wrong with the entry of a name. -/
structure Issue where
  name : String
  cause : Cause
deriving DecidableEq, Repr

/-- A checked part of the settings, or everything that is wrong with it. -/
inductive Checked (α : Type)
  | sound (a : α)
  | faulty (issues : List Issue)
deriving DecidableEq, Repr

/-- Put two parts together; the issues of the left one come first. -/
def Checked.apply {α β : Type} : Checked (α → β) → Checked α → Checked β
  | sound f, sound a => sound (f a)
  | sound _, faulty issues => faulty issues
  | faulty issues, sound _ => faulty issues
  | faulty issues, faulty more => faulty (issues ++ more)

end Baler.Settings
