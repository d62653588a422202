import Baler.Number.Double
import Baler.Number.WholeText
import Baler.Settings.Issue
import Baler.Text.Utf8
import Baler.Value

/-!
Reading one entry of the settings. Texts are read as numbers and flags where those are wanted; all
other conversions keep the value as it is or refuse it.
-/
namespace Baler.Settings

/-- The text of a value that stands for one: a text, a mode, or bytes that are UTF-8. -/
def asText : Value → Option (Option String)
  | .text s => some (some s)
  | .mode m => some (some m.name)
  | .bytes b => some ((Text.Utf8.decode? b).map String.ofList)
  | _ => none

/-- Read a text. -/
def readText (v : Value) : Except Cause String :=
  match asText v with
  | some (some s) => .ok s
  | some none => .error .notUtf8
  | none => .error .notText

/-- The bound of a whole number that comes as a double or stands for a flag. -/
def wordBound : Int := 0x8000000000000000

/-- Read a double as a whole number, which has to lie strictly between the bounds. -/
def readDouble (x : Float) : Except Cause Int :=
  match Number.Double.ofFloat x with
  | d@(.finite ..) =>
    let n := d.truncate?.getD 0
    if !d.isWhole then .error .fractional
    else if -wordBound < n ∧ n < wordBound then .ok n
    else .error .numeralTooLong
  | _ => .error .notFinite

/-- Read a whole number. -/
def readWhole (v : Value) : Except Cause Int :=
  match asText v, v with
  | some (some s), _ =>
    match Number.Numeral.ofWholeText s with
    | .number n => .ok n
    | .tooLong _ => .error .numeralTooLong
    | .malformed => .error .notANumeral
  | some none, _ => .error .notANumeral
  | none, .whole n => .ok n
  | none, .bool b => .ok (if b then 1 else 0)
  | none, .real x => readDouble x
  | none, _ => .error .notWhole

/-- Read a whole number above zero. -/
def readPositive (v : Value) : Except Cause Int := do
  let n ← readWhole v
  if 0 < n then return n else throw .notPositive

/-- The words for a set flag. -/
def setWords : List String := ["true", "t", "1", "yes", "y", "on"]

/-- The words for a flag that is not set. -/
def unsetWords : List String := ["false", "f", "0", "no", "n", "off"]

/-- Read a word as a flag, in any case of the plain letters. -/
def readFlagWord (s : String) : Except Cause Bool :=
  let word := s.toLower
  if word ∈ setWords then .ok true
  else if word ∈ unsetWords then .ok false
  else .error .notAFlagWord

/-- Read a number as a flag; one beyond the bounds is not even taken for a flag. -/
def readFlagNumber (n : Int) : Except Cause Bool :=
  if n = 1 then .ok true
  else if n = 0 then .ok false
  else if -wordBound ≤ n ∧ n < wordBound then .error .notAFlagWord
  else .error .notAFlag

/-- Read a flag. -/
def readFlag (v : Value) : Except Cause Bool :=
  match asText v, v with
  | some (some s), _ => readFlagWord s
  | some none, _ => .error .notAFlagWord
  | none, .bool b => .ok b
  | none, .whole n => readFlagNumber n
  | none, .real x =>
    match readDouble x with
    | .ok n => readFlagNumber n
    | .error _ => .error .notAFlag
  | none, _ => .error .notAFlag

/-- Read an acknowledgement mode. -/
def readMode (v : Value) : Except Cause AckMode :=
  match asText v with
  | some (some s) =>
    match AckMode.named? s with
    | some m => .ok m
    | none => .error .notAMode
  | _ => .error .notAMode

end Baler.Settings
