/-!
Blocks of code points. A character property is a sorted list of spans, and a character map is a
sorted list of runs; both look-ups stop at the first block beyond the code point.
-/
namespace Baler.Text

/-- The code points from the first to the last, both included. -/
structure Span where
  first : Nat
  last : Nat
deriving DecidableEq, Repr

/-- Whether a code point lies in one of the spans, which come in ascending order. -/
def covers : List Span → Nat → Bool
  | [], _ => false
  | s :: rest, n =>
    if n < s.first then false
    else if n ≤ s.last then true
    else covers rest n

/-- Every `stride`-th code point from the first to the last, sent to the one as far from `target`. -/
structure Run where
  first : Nat
  last : Nat
  stride : Nat
  target : Nat
deriving DecidableEq, Repr

/-- The image of a code point under the runs, which come in ascending order. -/
def image? : List Run → Nat → Option Nat
  | [], _ => none
  | r :: rest, n =>
    if n < r.first then none
    else if n ≤ r.last ∧ (n - r.first) % r.stride = 0 then some (r.target + (n - r.first))
    else image? rest n

example : covers [⟨9, 13⟩, ⟨32, 32⟩] 13 = true ∧ covers [⟨9, 13⟩, ⟨32, 32⟩] 14 = false := by decide

example : image? [⟨10, 20, 2, 11⟩] 12 = some 13 ∧ image? [⟨10, 20, 2, 11⟩] 13 = none := by decide

end Baler.Text
