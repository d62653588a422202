import Baler.Fault
import Baler.Number.Numeral
import Baler.Number.Shortest

/-!
Writing whole numbers. No more digits are written than are read, and a number that has more of them
cannot be written down.
-/
namespace Baler.Number

/-- The fault of writing a number down that has too many digits. -/
def tooLongToWrite : Fault := ⟨.value, limitText ""⟩

/-- A whole number in digits, after a minus if it is below zero. -/
def written? (n : Int) : Except Fault String :=
  if digitCount n.natAbs ≤ maxDigits then .ok (toString n) else .error tooLongToWrite

theorem written?_eq_ok {n : Int} {s : String} :
    written? n = .ok s ↔ digitCount n.natAbs ≤ maxDigits ∧ s = toString n := by
  by_cases short : digitCount n.natAbs ≤ maxDigits <;> simp [written?, short, eq_comm]

theorem written?_eq_error {n : Int} {f : Fault} :
    written? n = .error f ↔ maxDigits < digitCount n.natAbs ∧ f = tooLongToWrite := by
  rw [← Nat.not_le]
  by_cases short : digitCount n.natAbs ≤ maxDigits <;> simp [written?, short, eq_comm]

end Baler.Number
