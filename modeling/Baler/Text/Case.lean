import Baler.Text.CaseTable
import Baler.Text.CasedTable

/-!
Lower and upper case of whole texts. A letter goes to its own image wherever it stands, except
the capital sigma, which has a form of its own at the end of a word.
-/
namespace Baler.Text

/-- Passed over in the search for a neighbouring letter. -/
def isCaseIgnorable (c : Char) : Bool := covers caseIgnorableSpans c.toNat

/-- A letter with case. -/
def isCased (c : Char) : Bool := covers casedSpans c.toNat

/-- The lower-case form of a character that does not depend on its neighbours. -/
def lowerChar (c : Char) : List Char :=
  if c.toNat < 0x80 then [c.toLower]
  else if c = 'İ' then ['i', '\u0307']
  else [((image? lowerRuns c.toNat).map Char.ofNat).getD c]

/-- The upper-case form of a character. -/
def upperChar (c : Char) : List Char :=
  if c.toNat < 0x80 then [c.toUpper]
  else match upperSpellings.lookup c.toNat with
    | some cs => cs.map Char.ofNat
    | none => [((image? upperRuns c.toNat).map Char.ofNat).getD c]

/-- Whether the next character that is not passed over is a letter. -/
def letterAhead : List Char → Bool
  | [] => false
  | c :: rest => if isCaseIgnorable c then letterAhead rest else isCased c

/-- Lower the characters after a letter, or after none. -/
def lowerAfter (letter : Bool) : List Char → List Char
  | [] => []
  | c :: rest =>
    let image := if c = 'Σ' then (if letter && !letterAhead rest then ['ς'] else ['σ'])
      else lowerChar c
    image ++ lowerAfter (if isCaseIgnorable c then letter else isCased c) rest

/-- The lower-case form of a list of characters. -/
def lowerChars (cs : List Char) : List Char := lowerAfter false cs

/-- The lower-case form of a text. -/
def lower (s : String) : String := String.ofList (lowerChars s.toList)

/-- The upper-case form of a text. -/
def upper (s : String) : String := String.ofList (s.toList.flatMap upperChar)

theorem lowerChar_ne_nil (c : Char) : lowerChar c ≠ [] := by
  unfold lowerChar
  split
  · simp
  · split <;> simp

theorem lowerChars_ne_nil {cs : List Char} (h : cs ≠ []) : lowerChars cs ≠ [] := by
  cases cs with
  | nil => exact absurd rfl h
  | cons c rest =>
    simp only [lowerChars, lowerAfter, ne_eq, List.append_eq_nil_iff, not_and]
    split
    · split <;> simp
    · exact fun none => absurd none (lowerChar_ne_nil c)

theorem lowerChar_of_ascii {c : Char} (h : c.toNat < 0x80) : lowerChar c = [c.toLower] := by
  simp [lowerChar, h]

example : lowerChars ['A', 'Σ'] = ['a', 'ς'] := by decide +kernel

example : lowerChars ['Σ', 'A'] = ['σ', 'a'] := by decide +kernel

end Baler.Text
