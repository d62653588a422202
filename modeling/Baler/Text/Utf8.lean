/-!
UTF-8. A decoder knows how many bytes of a character it is still owed and the range of the next
one; a byte out of that range ends a damaged stretch and is read again as a first byte.
-/
namespace Baler.Text.Utf8

/-- The bytes of a character. -/
def encodeChar (c : Char) : List UInt8 :=
  let n := c.toNat
  if n < 0x80 then [n.toUInt8]
  else if n < 0x800 then [(0xc0 + n / 0x40).toUInt8, (0x80 + n % 0x40).toUInt8]
  else if n < 0x10000 then
    [(0xe0 + n / 0x1000).toUInt8, (0x80 + n / 0x40 % 0x40).toUInt8, (0x80 + n % 0x40).toUInt8]
  else
    [(0xf0 + n / 0x40000).toUInt8, (0x80 + n / 0x1000 % 0x40).toUInt8,
      (0x80 + n / 0x40 % 0x40).toUInt8, (0x80 + n % 0x40).toUInt8]

/-- The bytes of a list of characters. -/
def encode (cs : List Char) : List UInt8 := cs.flatMap encodeChar

/-- A character that has begun: the bytes owed after the next one, the range of the next one and
the value so far. -/
structure Begun where
  owed : Nat
  low : Nat
  high : Nat
  value : Nat
deriving DecidableEq, Repr

/-- What stands in a byte string: a character, or a longest stretch that begins none or breaks
one off. -/
inductive Piece
  | char (c : Char)
  | damaged
deriving DecidableEq, Repr

/-- A byte read where a character may begin. -/
def start (b : UInt8) : Piece ⊕ Begun :=
  let n := b.toNat
  if n < 0x80 then .inl (.char (Char.ofNat n))
  else if 0xc2 ≤ n ∧ n ≤ 0xdf then .inr ⟨0, 0x80, 0xbf, n - 0xc0⟩
  else if n = 0xe0 then .inr ⟨1, 0xa0, 0xbf, 0⟩
  else if n = 0xed then .inr ⟨1, 0x80, 0x9f, 0xd⟩
  else if 0xe1 ≤ n ∧ n ≤ 0xef then .inr ⟨1, 0x80, 0xbf, n - 0xe0⟩
  else if n = 0xf0 then .inr ⟨2, 0x90, 0xbf, 0⟩
  else if 0xf1 ≤ n ∧ n ≤ 0xf3 then .inr ⟨2, 0x80, 0xbf, n - 0xf0⟩
  else if n = 0xf4 then .inr ⟨2, 0x80, 0x8f, 4⟩
  else .inl .damaged

/-- Read bytes between characters, or inside one that has begun. -/
def scan : Option Begun → List UInt8 → List Piece
  | none, [] => []
  | some _, [] => [.damaged]
  | none, b :: rest =>
    match start b with
    | .inl piece => piece :: scan none rest
    | .inr begun => scan (some begun) rest
  | some p, b :: rest =>
    if p.low ≤ b.toNat ∧ b.toNat ≤ p.high then
      let value := p.value * 0x40 + b.toNat % 0x40
      match p.owed with
      | 0 => .char (Char.ofNat value) :: scan none rest
      | owed + 1 => scan (some ⟨owed, 0x80, 0xbf, value⟩) rest
    else
      match start b with
      | .inl piece => .damaged :: piece :: scan none rest
      | .inr begun => .damaged :: scan (some begun) rest

/-- The character, or the replacement character for a damaged stretch. -/
def Piece.shown : Piece → Char
  | .char c => c
  | .damaged => '\uFFFD'

/-- The character of an undamaged piece. -/
def Piece.char? : Piece → Option Char
  | .char c => some c
  | .damaged => none

/-- The characters of a byte string, with one replacement character for each damaged stretch. -/
def decodeLossy (bytes : List UInt8) : List Char := (scan none bytes).map Piece.shown

/-- The characters of a byte string without damage. -/
def decode? (bytes : List UInt8) : Option (List Char) := (scan none bytes).mapM Piece.char?

/-- The bytes of a text. -/
def ofString (s : String) : List UInt8 := encode s.toList

@[simp] theorem encode_nil : encode [] = [] := rfl

@[simp] theorem encode_cons (c : Char) (cs : List Char) :
    encode (c :: cs) = encodeChar c ++ encode cs := rfl

@[simp] theorem decodeLossy_nil : decodeLossy [] = [] := rfl

example : decodeLossy [0x61, 0xe2, 0x82, 0x62] = ['a', '\uFFFD', 'b'] := by decide

example : decode? [0xe2, 0x82, 0xac] = some ['€'] := by decide

end Baler.Text.Utf8
