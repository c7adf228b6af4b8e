import ParameterTemplates.Number.Binary64

/-! The shortest decimal that reads back to a given double, by trial in exact arithmetic. -/
namespace ParameterTemplates

/-- The number `digits * 10 ^ exponent`. -/
structure Decimal where
  digits : Nat
  exponent : Int
  deriving DecidableEq, Repr

/-- What becomes of a value halfway between two decimals of the same length. -/
inductive Tie where
  | even
  | up
  deriving DecidableEq, Repr

namespace Decimal

/-- Drops a final zero as long as there is one; the number of steps bounds how many. -/
def withoutZeros : Nat → Decimal → Decimal
  | 0, d => d
  | steps + 1, d =>
    if d.digits ≠ 0 ∧ d.digits % 10 = 0 then withoutZeros steps ⟨d.digits / 10, d.exponent + 1⟩
    else d

def toBinary64 (d : Decimal) : Binary64 := .ofDecimal false d.digits d.exponent

end Decimal

namespace Magnitude

/-- The power of ten of the leading digit. -/
def leadingExponent (m : Magnitude) : Int :=
  (Nat.toDigits 10 (m.units * Nat.pow 10 400 / unitsPerOne)).length - 401

/-- The magnitude divided by a power of ten, as a quotient. -/
def overPowerOfTen (m : Magnitude) (exponent : Int) : Nat × Nat :=
  if 0 ≤ exponent then (m.units, unitsPerOne * Nat.pow 10 exponent.toNat)
  else (m.units * Nat.pow 10 (-exponent).toNat, unitsPerOne)

/-- The two neighbours of a magnitude among the multiples of a power of ten, the nearer one first. -/
def neighbours (tie : Tie) (m : Magnitude) (exponent : Int) : List Decimal :=
  let (num, den) := m.overPowerOfTen exponent
  let low := num / den
  let r := 2 * (num % den)
  let upFirst := den < r || (den == r && (tie == .up || low % 2 == 1))
  if upFirst then [⟨low + 1, exponent⟩, ⟨low, exponent⟩] else [⟨low, exponent⟩, ⟨low + 1, exponent⟩]

/-- The nearest decimal of a given number of digits that reads back. -/
def decimalOfLength? (tie : Tie) (m : Magnitude) (length : Nat) : Option Decimal :=
  (m.neighbours tie (m.leadingExponent - length + 1)).find? fun d =>
    decide (d.toBinary64 = .finite false m)

/-- All digits of a magnitude. -/
def exactDecimal (m : Magnitude) : Decimal := ⟨m.units * Nat.pow 5 1074, -1074⟩

/-- The decimal with the fewest digits that reads back, and of those the nearest. -/
def shortest (tie : Tie) (m : Magnitude) : Decimal :=
  (((List.range' 1 17).findSome? (m.decimalOfLength? tie)).getD m.exactDecimal).withoutZeros 1100

end Magnitude
end ParameterTemplates
