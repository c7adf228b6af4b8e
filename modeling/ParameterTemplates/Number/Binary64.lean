/-! Doubles as exact numbers: every magnitude is a whole count of the least positive double. -/
namespace ParameterTemplates

/-- The least positive double is one over this number, and every finite double is a multiple of it. -/
def unitsPerOne : Nat := Nat.pow 2 1074

/-- One more than every finite magnitude, in units. -/
def unitLimit : Nat := Nat.pow 2 2098

theorem unitLimit_pos : 0 < unitLimit := by
  unfold unitLimit
  apply Nat.pow_pos
  decide

/-- The distance from a magnitude to the next larger one: 53 leading bits are kept. -/
def spacing (units : Nat) : Nat := Nat.pow 2 (units.log2 - 52)

/-- A count of units that a double holds without rounding. -/
def Representable (units : Nat) : Prop := units < unitLimit ∧ spacing units ∣ units

/-- The magnitude of a finite double. -/
structure Magnitude where
  units : Nat
  representable : Representable units
  deriving DecidableEq

inductive Binary64 where
  | nan
  | infinity (negative : Bool)
  | finite (negative : Bool) (magnitude : Magnitude)
  deriving DecidableEq

/-- The quotient rounded to the nearest integer, a half going to the even neighbour. -/
def roundHalfEven (num den : Nat) : Nat :=
  let q := num / den
  let r := num % den
  if 2 * r < den then q else if den < 2 * r then q + 1 else q + q % 2

/-- The quotient rounded to the grid of 53 leading bits. -/
def nearestUnits (num den : Nat) : Nat :=
  let s := spacing (num / den)
  roundHalfEven num (den * s) * s

theorem roundHalfEven_le {num den : Nat} : roundHalfEven num den ≤ num / den + 1 := by
  unfold roundHalfEven
  have := Nat.mod_lt (num / den) (show 0 < 2 by decide)
  simp only
  split
  · omega
  · split <;> omega

theorem spacing_dvd_mul {n k : Nat} (h : n ≤ Nat.pow 2 53) :
    spacing (n * Nat.pow 2 k) ∣ n * Nat.pow 2 k := by
  simp only [spacing, Nat.pow_eq] at h ⊢
  rcases Nat.eq_zero_or_pos n with rfl | hn
  · simp
  rcases Nat.lt_or_eq_of_le h with h | rfl
  · have hlog : (n * 2 ^ k).log2 < 53 + k := by
      rw [Nat.log2_lt (Nat.mul_ne_zero (by omega) (by simp)), Nat.pow_add]
      exact Nat.mul_lt_mul_of_pos_right h (Nat.two_pow_pos k)
    exact Nat.dvd_trans (Nat.pow_dvd_pow 2 (by omega)) (Nat.dvd_mul_left _ _)
  · rw [← Nat.pow_add]
    exact Nat.pow_dvd_pow 2 (by rw [Nat.log2_two_pow]; omega)

theorem spacing_nearestUnits_dvd (num den : Nat) :
    spacing (nearestUnits num den) ∣ nearestUnits num den := by
  refine spacing_dvd_mul (Nat.le_trans roundHalfEven_le (Nat.succ_le_of_lt ?_))
  rw [← Nat.div_div_eq_div_mul]
  generalize num / den = q
  rcases Nat.eq_zero_or_pos q with rfl | hq
  · simp
  apply Nat.div_lt_of_lt_mul
  rw [spacing, Nat.pow_eq, Nat.pow_eq, ← Nat.pow_add, ← Nat.log2_lt (by omega)]
  omega

namespace Binary64

def zero (negative : Bool) : Binary64 :=
  .finite negative ⟨0, unitLimit_pos, Nat.dvd_zero _⟩

/-- The double nearest to a quotient of units, infinite when the rounded count is too large. -/
def ofUnits (negative : Bool) (num den : Nat) : Binary64 :=
  if h : nearestUnits num den < unitLimit then
    .finite negative ⟨nearestUnits num den, h, spacing_nearestUnits_dvd num den⟩
  else .infinity negative

/-- The double nearest to a quotient, a half going to the even mantissa. -/
def ofRatio (negative : Bool) (num den : Nat) : Binary64 :=
  ofUnits negative (num * unitsPerOne) den

def ofInt (n : Int) : Binary64 := ofRatio (n < 0) n.natAbs 1

/-- The double nearest to `coefficient * 10 ^ exponent`. The two early answers keep a huge
exponent from being raised to a power: outside them the value is certainly infinite or zero. -/
def ofDecimal (negative : Bool) (coefficient : Nat) (exponent : Int) : Binary64 :=
  if coefficient = 0 then zero negative
  else if 310 ≤ exponent then .infinity negative
  else if (coefficient.log2 : Int) + 3 * exponent < -1100 then zero negative
  else if 0 ≤ exponent then ofRatio negative (coefficient * Nat.pow 10 exponent.toNat) 1
  else ofRatio negative coefficient (Nat.pow 10 (-exponent).toNat)

/-- Equality as numbers: a NaN differs from everything and the two zeros agree. -/
def sameNumber : Binary64 → Binary64 → Bool
  | .infinity s, .infinity t => s == t
  | .finite s a, .finite t b => a.units == b.units && (s == t || a.units == 0)
  | _, _ => false

def isFinite : Binary64 → Bool
  | .finite _ _ => true
  | _ => false

def negate : Binary64 → Binary64
  | .nan => .nan
  | .infinity s => .infinity (!s)
  | .finite s m => .finite (!s) m

end Binary64

namespace Magnitude

/-- The rounded product. -/
def multipliedBy (a b : Magnitude) : Binary64 := .ofUnits false (a.units * b.units) unitsPerOne

/-- The rounded quotient. -/
def dividedBy (a b : Magnitude) : Binary64 := .ofUnits false (a.units * unitsPerOne) b.units

end Magnitude
end ParameterTemplates
