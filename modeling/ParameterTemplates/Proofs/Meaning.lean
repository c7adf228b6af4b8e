import Mathlib.Order.WithBot
import ParameterTemplates.Value.Scalar

/-! What values stand for, and that their equality is told by it. Equality is symmetric, and only
NaN, which stands for no number, differs from itself. -/
namespace ParameterTemplates

namespace Binary64

/-- The units of a finite double with its sign. Both zeros are zero. -/
def signedUnits (negative : Bool) (m : Magnitude) : Int :=
  if negative then -(m.units : Int) else m.units

/-- The number that a double stands for, in units. An infinity lies beyond every finite number, and
NaN is no number. -/
def number? : Binary64 → Option (WithBot (WithTop Int))
  | .nan => none
  | .infinity negative => some (if negative then ⊥ else (⊤ : WithTop Int))
  | .finite negative m => some (signedUnits negative m : WithTop Int)

variable {x y : Binary64}

theorem signedUnits_eq_iff {s t : Bool} {a b : Magnitude} :
    signedUnits s a = signedUnits t b ↔ a.units = b.units ∧ (s = t ∨ a.units = 0) := by
  unfold signedUnits
  cases s <;> cases t <;> simp <;> omega

theorem sameNumber_finite_iff {s t : Bool} {a b : Magnitude} :
    (Binary64.finite s a).sameNumber (.finite t b) = true ↔ signedUnits s a = signedUnits t b := by
  simp only [sameNumber, Bool.and_eq_true, Bool.or_eq_true, beq_iff_eq, signedUnits_eq_iff]

/-- Doubles are equal when they stand for the same number. -/
theorem sameNumber_iff :
    x.sameNumber y = true ↔ ∃ n, x.number? = some n ∧ y.number? = some n := by
  cases x with
  | nan => simp [sameNumber, number?]
  | infinity s =>
    cases y with
    | nan => simp [sameNumber, number?]
    | infinity t => cases s <;> cases t <;> simp [sameNumber, number?]
    | finite t b => cases s <;> simp [sameNumber, number?]
  | finite s a =>
    cases y with
    | nan => simp [sameNumber, number?]
    | infinity t => cases t <;> simp [sameNumber, number?]
    | finite t b =>
      rw [sameNumber_finite_iff]
      simp [number?, eq_comm]

theorem number?_eq_none_iff : x.number? = none ↔ x = .nan := by
  cases x <;> simp [number?]

end Binary64

/-- What values stand for. -/
inductive Meaning where
  | text (t : Text)
  | number (n : WithBot (WithTop Int))
  | truth (b : Bool)

namespace Scalar

/-- What a value stands for; NaN stands for nothing. -/
def meaning? : Scalar → Option Meaning
  | .string s => some (.text s)
  | .number x => x.number?.map .number
  | .boolean b => some (.truth b)

variable {u v w : Scalar}

/-- Values are equal when they stand for the same, which values of two types never do. -/
theorem sameValue_iff :
    u.sameValue v = true ↔ ∃ m, u.meaning? = some m ∧ v.meaning? = some m := by
  cases u with
  | string s =>
    cases v with
    | string t => simpa [sameValue, meaning?] using eq_comm
    | number y => simp [sameValue, meaning?]
    | boolean b => simp [sameValue, meaning?]
  | boolean a =>
    cases v with
    | string t => simp [sameValue, meaning?]
    | number y => simp [sameValue, meaning?]
    | boolean b => simpa [sameValue, meaning?] using eq_comm
  | number x =>
    cases v with
    | string t => simp [sameValue, meaning?]
    | boolean b => simp [sameValue, meaning?]
    | number y =>
      have hsame : (Scalar.number x).sameValue (.number y) = x.sameNumber y := rfl
      rw [hsame, Binary64.sameNumber_iff]
      constructor
      · intro h
        obtain ⟨n, hx, hy⟩ := h
        exact ⟨.number n, by simp [meaning?, hx], by simp [meaning?, hy]⟩
      · intro h
        obtain ⟨m, hx, hy⟩ := h
        obtain ⟨n, hn, rfl⟩ := Option.map_eq_some_iff.mp hx
        obtain ⟨k, hk, hkn⟩ := Option.map_eq_some_iff.mp hy
        exact ⟨n, hn, by rw [hk, Meaning.number.inj hkn]⟩

theorem meaning?_eq_none_iff : u.meaning? = none ↔ u = .number .nan := by
  cases u <;> simp [meaning?, Binary64.number?_eq_none_iff]

theorem sameValue_comm (u v : Scalar) : u.sameValue v = v.sameValue u := by
  rw [Bool.eq_iff_iff, sameValue_iff, sameValue_iff]
  exact exists_congr fun m => and_comm

theorem sameValue_self (u : Scalar) : u.sameValue u = decide (u ≠ .number .nan) := by
  rw [Bool.eq_iff_iff, sameValue_iff, decide_eq_true_iff, ne_eq, ← meaning?_eq_none_iff]
  simp [← Option.ne_none_iff_exists']

/-- Equal values compare alike with every value. -/
theorem sameValue_congr (h : u.sameValue v = true) (w : Scalar) :
    u.sameValue w = v.sameValue w := by
  obtain ⟨m, hu, hv⟩ := sameValue_iff.mp h
  rw [Bool.eq_iff_iff, sameValue_iff, sameValue_iff, hu, hv]

end Scalar

end ParameterTemplates
