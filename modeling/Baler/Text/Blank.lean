import Baler.Text.Span

/-!
Blank characters and trimming. Texts are trimmed of every blank of every script; the four
information separators count as blank in texts but not in numerals.
-/
namespace Baler.Text

/-- The white space of Unicode. -/
def spaceSpans : List Span :=
  [
    ⟨0x9, 0xd⟩, ⟨0x20, 0x20⟩, ⟨0x85, 0x85⟩, ⟨0xa0, 0xa0⟩, ⟨0x1680, 0x1680⟩, ⟨0x2000, 0x200a⟩,
    ⟨0x2028, 0x2029⟩, ⟨0x202f, 0x202f⟩, ⟨0x205f, 0x205f⟩, ⟨0x3000, 0x3000⟩
  ]

/-- White space in the sense of the character database. -/
def isSpace (c : Char) : Bool := covers spaceSpans c.toNat

/-- White space or an information separator. -/
def isBlank (c : Char) : Bool := isSpace c || (0x1c ≤ c.toNat && c.toNat ≤ 0x1f)

/-- Drop the characters of a class from both ends. -/
def trimWhere (p : Char → Bool) (cs : List Char) : List Char :=
  ((cs.dropWhile p).reverse.dropWhile p).reverse

/-- A text without the blanks around it. -/
def trim (s : String) : String := String.ofList (trimWhere isBlank s.toList)

end Baler.Text
