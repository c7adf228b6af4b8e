import ParameterTemplates.Proofs.InlineValues
import ParameterTemplates.Proofs.NumberLiterals

/-! Integers as values. An integer of 64 bits is rounded to one double whichever way it comes in: as
a number, as a JSON value, as a text on the command line or as a literal. Up to `2 ^ 53` in magnitude
nothing is rounded, so that there the comparison with a numeral is the comparison of integers. -/
namespace ParameterTemplates
open Template Text

namespace NumberFormat

section Digits

variable {n : Nat}

theorem isDigits_digits (n : Nat) : Numeral.IsDigits (digits n) :=
  fun _ hc => Nat.isDigit_of_mem_toDigits (by decide) (by decide) hc

theorem digits_ne_nil (n : Nat) : digits n ≠ [] := Nat.toDigits_ne_nil

theorem natural_digits (n : Nat) : Numeral.natural (digits n) = n :=
  Nat.ofDigitChars_toDigits (by decide) (by decide)

theorem digits_of_lt_ten (h : n < 10) : digits n = [n.digitChar] := Nat.toDigits_of_lt_base h

/-- The last digit is the remainder by ten, and the digits before it are those of the quotient. -/
theorem digits_of_ten_le (h : 10 ≤ n) : digits n = digits (n / 10) ++ [(n % 10).digitChar] :=
  Nat.toDigits_of_base_le (by decide) h

theorem lt_ten_pow_length (n : Nat) : n < 10 ^ (digits n).length :=
  (Nat.length_toDigits_le_iff (by decide) Nat.length_toDigits_pos).mp le_rfl

/-- Of the numbers that have no fewer digits the least is a power of ten. -/
theorem ten_pow_pred_length_le (h : n ≠ 0) : 10 ^ ((digits n).length - 1) ≤ n := by
  have hpos : 0 < (digits n).length := Nat.length_toDigits_pos
  by_contra hlt
  rcases Nat.eq_zero_or_pos ((digits n).length - 1) with hone | hmore
  · rw [hone] at hlt
    omega
  · have hle := (Nat.length_toDigits_le_iff (by decide) hmore).mpr (not_le.mp hlt)
    rw [← digits] at hle
    omega

/-- No zero stands before the first digit that counts. -/
theorem head?_digits_ne (h : n ≠ 0) : (digits n).head? ≠ some '0' := by
  induction n using Nat.strongRecOn with
  | ind n ih =>
    by_cases hn : n < 10
    · rw [digits_of_lt_ten hn]
      simpa using h
    · rw [digits_of_ten_le (by omega), List.head?_append_of_ne_nil _ (digits_ne_nil _)]
      exact ih (n / 10) (by omega) (by omega)

theorem isWhole_digits (n : Nat) : Json.IsWhole (digits n) := by
  refine ⟨isDigits_digits n, digits_ne_nil n, fun h => ?_⟩
  by_cases hn : n = 0
  · rw [hn]
    rfl
  · exact absurd h (head?_digits_ne hn)

end Digits

section Numerals

/-- The numeral of an integer has neither a point nor an exponent. -/
theorem written_integer (n : Int) :
    Numeral.Written ⟨decide (n < 0), digits n.natAbs, [], 0⟩ (integer n) := by
  have hsign : Numeral.IsSign (decide (n < 0)) (if n < 0 then ['-'] else []) := by
    split
    · next h => rw [decide_eq_true h]; exact .minus
    · next h => rw [decide_eq_false h]; exact .none
  have h := Numeral.Written.mk hsign (isDigits_digits n.natAbs) .none (.inl (digits_ne_nil _)) .none
  simpa [integer] using h

theorem magnitude_integer (n : Int) :
    Numeral.magnitude ⟨decide (n < 0), digits n.natAbs, [], 0⟩ = n.natAbs := by
  have hnil : Numeral.natural [] = 0 := rfl
  simp only [Numeral.magnitude, natural_digits, hnil]
  simp

theorem parts_integer (n : Int) :
    Json.NumberParts.Written ⟨decide (n < 0), digits n.natAbs, [], none⟩ (integer n) := by
  have hminus : Json.IsMinus (decide (n < 0)) (if n < 0 then ['-'] else []) := by
    split
    · next h => rw [decide_eq_true h]; exact .minus
    · next h => rw [decide_eq_false h]; exact .none
  have h := Json.NumberParts.Written.mk hminus (isWhole_digits n.natAbs) .none .none
  simpa [integer] using h

end Numerals

end NumberFormat

open NumberFormat

namespace Numeral

theorem isBare_of_isNumeralChar {c : Char} (h : isNumeralChar c = true) : isBare c = true := by
  simp only [isBare, Bool.and_eq_true, bne_iff_ne]
  refine ⟨⟨?_, ?_⟩, ?_⟩ <;>
    · rintro rfl
      contradiction

/-- A numeral may stand as an operand. -/
theorem Written.isBareOperand {n : Numeral} {t : Text} (h : n.Written t) : IsBareOperand t := by
  have htrim := h.trim_eq
  refine ⟨h.ne_nil, fun c hc => isBare_of_isNumeralChar (h.isNumeralChar c hc), ?_, ?_⟩
  · rw [← htrim]
    exact solidHead_trim t
  · rw [← htrim]
    exact solidLast_trim t

end Numeral

section Exact

variable {n : Nat}

theorem unitsPerOne_lt : unitsPerOne < 2 ^ 2045 := by
  have h : 1074 < 2045 := by decide
  unfold unitsPerOne
  generalize 1074 = j at h ⊢
  generalize 2045 = k at h ⊢
  exact Nat.pow_lt_pow_right (by decide) h

theorem onGrid_mul_unitsPerOne (h : n ≤ 2 ^ 53) : OnGrid (n * unitsPerOne) := by
  unfold unitsPerOne
  generalize 1074 = k
  exact onGrid_mul h k

/-- The first even number of 54 bits is on the grid again. -/
theorem onGrid_next_mul_unitsPerOne : OnGrid ((2 ^ 53 + 2) * unitsPerOne) := by
  have hhalf : 2 ^ 53 + 2 = (2 ^ 52 + 1) * 2 := rfl
  unfold unitsPerOne
  generalize 1074 = k
  rw [hhalf, mul_assoc, Nat.pow_eq, ← Nat.pow_succ']
  exact onGrid_mul (by decide) (k + 1)

/-- A number of no more than 53 bits is a magnitude. -/
theorem exists_magnitude (h : n ≤ 2 ^ 53) : ∃ m : Magnitude, m.units = n * unitsPerOne := by
  refine ⟨⟨n * unitsPerOne, ?_, onGrid_iff.mp (onGrid_mul_unitsPerOne h)⟩, rfl⟩
  rw [unitLimit_eq]
  exact Nat.mul_lt_mul_of_le_of_lt h unitsPerOne_lt (by decide)

theorem Magnitude.units_eq_zero_iff {m : Magnitude} (hm : m.units = n * unitsPerOne) :
    m.units = 0 ↔ n = 0 := by
  rw [hm, Nat.mul_eq_zero, or_iff_left unitsPerOne_pos.ne']

theorem Magnitude.value_of_units {m : Magnitude} (hm : m.units = n * unitsPerOne) :
    m.value = n := by
  rw [value, hm, Nat.cast_mul, mul_div_cancel_right₀ _ cast_unitsPerOne_pos.ne']

end Exact

namespace Binary64

variable {n : Int}

theorem roundsTo_ofInt (n : Int) : RoundsTo (decide (n < 0)) n.natAbs (ofInt n) := by
  have h := roundsTo_ofRatio (decide (n < 0)) n.natAbs Nat.one_pos
  rwa [Nat.cast_one, div_one] at h

/-- An integer of 64 bits is far below the largest double. -/
theorem isFinite_ofInt (h : n.natAbs ≤ 2 ^ 64) : (ofInt n).isFinite = true := by
  rw [(roundsTo_ofInt n).isFinite_iff]
  calc (n.natAbs : ℚ) ≤ 2 ^ 64 := by exact_mod_cast h
    _ ≤ 2 ^ 971 := pow_le_pow_right₀ (by norm_num) (by norm_num)
    _ < overflowBound := lt_mul_of_one_lt_left (pow_pos (by norm_num) _) (by norm_num)

/-- An integer that needs no rounding is its own double. -/
theorem ofInt_eq_finite {m : Magnitude} (hm : m.units = n.natAbs * unitsPerOne) :
    ofInt n = .finite (decide (n < 0)) m := by
  have hvalue := roundsTo_value (decide (n < 0)) m
  rw [Magnitude.value_of_units hm] at hvalue
  exact (roundsTo_ofInt n).unique hvalue

theorem sameNumber_self {x : Binary64} (h : x.isFinite = true) : x.sameNumber x = true := by
  cases x with
  | nan | infinity => contradiction
  | finite s m => exact sameNumber_finite_iff.mpr rfl

theorem signedUnits_of_units {m : Magnitude} (hm : m.units = n.natAbs * unitsPerOne) :
    signedUnits (decide (n < 0)) m = n * unitsPerOne := by
  simp only [signedUnits, hm, decide_eq_true_eq, Nat.cast_mul]
  split
  · next hn => rw [Int.ofNat_natAbs_of_nonpos hn.le, neg_mul, neg_neg]
  · next hn => rw [Int.natAbs_of_nonneg (not_lt.mp hn)]

/-- Up to 53 bits integers are equal as doubles only if they are equal. -/
theorem sameNumber_ofInt {a b : Int} (ha : a.natAbs ≤ 2 ^ 53) (hb : b.natAbs ≤ 2 ^ 53) :
    (ofInt a).sameNumber (ofInt b) = decide (a = b) := by
  have hne : (unitsPerOne : Int) ≠ 0 := Int.natCast_ne_zero.mpr unitsPerOne_pos.ne'
  obtain ⟨k, hk⟩ := exists_magnitude ha
  obtain ⟨m, hm⟩ := exists_magnitude hb
  rw [Bool.eq_iff_iff, decide_eq_true_iff, ofInt_eq_finite hk, ofInt_eq_finite hm,
    sameNumber_finite_iff, signedUnits_of_units hk, signedUnits_of_units hm]
  exact mul_left_inj' hne

end Binary64

namespace Literal

variable {n : Int}

/-- The numeral of an integer is a literal of the double that the integer is rounded to. -/
theorem read_integer (h : (Binary64.ofInt n).isFinite = true) :
    read .number (integer n) = .ok (.number (.ofInt n)) := by
  have hwritten := written_integer n
  have hrounds := Binary64.roundsTo_ofInt n
  rw [← hwritten.trim_eq] at hwritten
  rw [← magnitude_integer] at hrounds
  exact read_number_eq_ok_iff.mpr ⟨_, _, hwritten, hrounds, h, rfl⟩

end Literal

namespace Json

variable {n : Int}

theorem value?_integer (h : -2 ^ 63 ≤ n) (h' : n < 2 ^ 64) :
    NumberParts.value? ⟨decide (n < 0), digits n.natAbs, [], none⟩ = some (.integer n) := by
  have hlimit : coefficientLimit = 2 ^ 64 := rfl
  have hbound : Nat.pow 2 63 = 2 ^ 63 := rfl
  simp only [NumberParts.value?, whole?, natural_digits, hlimit, hbound, and_self, if_true,
    decide_eq_true_eq]
  split
  · next hneg =>
    have hrange : ¬(n.natAbs = 0 ∨ 2 ^ 63 < n.natAbs) := by omega
    rw [if_neg hrange, Int.ofNat_natAbs_of_nonpos hneg.le, neg_neg]
  · next hneg =>
    have hrange : n.natAbs < 2 ^ 64 := by omega
    rw [if_pos hrange, Int.natAbs_of_nonneg (not_lt.mp hneg)]

/-- The numeral of an integer is a document of this integer, as far as it has 64 bits. -/
theorem isDocument_integer (h : -2 ^ 63 ≤ n) (h' : n < 2 ^ 64) :
    IsDocument (.integer n) (NumberFormat.integer n) :=
  (IsToken.number (parts_integer n) (value?_integer h h')).isDocument

end Json

section Comparisons

variable {table : Table} {name : Text} {n a b : Int} {v : Scalar}

/-- The ways in which an integer comes in as a value: by itself, as a JSON value, by its numeral in
a JSON document, as an argument or as a literal. -/
inductive Enters (n : Int) : Scalar → Prop where
  | number : Enters n (.number (.ofInt n))
  | json {v : Scalar} : Scalar.ofJson (.integer n) = .ok v → Enters n v
  | document {json : Json} {v : Scalar} : Json.read? (integer n) = some json →
      Scalar.ofJson json = .ok v → Enters n v
  | argument : Enters n (Command.inlineValue (integer n))
  | literal {v : Scalar} : Literal.read .number (integer n) = .ok v → Enters n v

theorem Enters.eq_ofInt (h : Enters n v) (hlow : -2 ^ 63 ≤ n) (hhigh : n < 2 ^ 64) :
    v = .number (.ofInt n) := by
  have hdocument := Json.isDocument_integer hlow hhigh
  cases h with
  | number => rfl
  | json hv => exact (Except.ok.inj hv).symm
  | document hread hv =>
    obtain rfl := Option.some.inj (hdocument.read?.symm.trans hread)
    exact (Except.ok.inj hv).symm
  | argument => exact Command.inlineValue_of_document hdocument rfl
  | literal hv =>
    have hfinite := Binary64.isFinite_ofInt (n := n) (by omega)
    exact (Except.ok.inj ((Literal.read_integer hfinite).symm.trans hv)).symm

theorem wellFormed_equality_integer (hn : IsName name)
    (hread : Literal.read? .number (integer n) = some v) :
    (Shape.equality name (integer n)).WellFormed := by
  have hwritten := written_integer n
  have ho : IsOperand (integer n) := .inr hwritten.isBareOperand
  have hline : '\n' ∉ integer n := by
    intro hmem
    have := hwritten.isNumeralChar _ hmem
    contradiction
  exact ⟨hn, ho.ne_nil, ho.solidHead, ho.solidLast, hline, ho.hasOpenQuestion_eq_false,
    Literal.reference?_of_read? hread⟩

/-- A number is compared with a numeral as the double that the numeral is read to. -/
theorem resolve_equality_integer {x : Binary64} (hn : IsName name)
    (ht : table name = some (.ofScalar (.number x)))
    (hfinite : (Binary64.ofInt n).isFinite = true) (wanted : ValueType) :
    (resolve table wanted (Shape.equality name (integer n)).text).outcome =
      .ok (.boolean (x.sameNumber (.ofInt n))) := by
  have hread := Literal.read_eq_ok_iff.mp (Literal.read_integer hfinite)
  have hequality := evaluateEquality_of_value ht (Literal.coerce_eq_ok_iff_read?.mpr hread)
  rw [resolve_text_outcome (wellFormed_equality_integer hn hread), evaluate_equality_outcome,
    hequality]
  rfl

/-- An integer that comes in one way or another equals its numeral. -/
theorem resolve_equality_self (h : Enters n v) (hlow : -2 ^ 63 ≤ n) (hhigh : n < 2 ^ 64)
    (hn : IsName name) (ht : table name = some (.ofScalar v)) (wanted : ValueType) :
    (resolve table wanted (Shape.equality name (integer n)).text).outcome =
      .ok (.boolean true) := by
  have hfinite := Binary64.isFinite_ofInt (n := n) (by omega)
  rw [h.eq_ofInt hlow hhigh] at ht
  rw [resolve_equality_integer hn ht hfinite, Binary64.sameNumber_self hfinite]

/-- Integers of no more than 53 bits are compared as integers. -/
theorem resolve_equality_small (h : Enters a v) (ha : a.natAbs ≤ 2 ^ 53) (hb : b.natAbs ≤ 2 ^ 53)
    (hn : IsName name) (ht : table name = some (.ofScalar v)) (wanted : ValueType) :
    (resolve table wanted (Shape.equality name (integer b)).text).outcome =
      .ok (.boolean (decide (a = b))) := by
  have hfinite := Binary64.isFinite_ofInt (n := b) (by omega)
  rw [h.eq_ofInt (by omega) (by omega)] at ht
  rw [resolve_equality_integer hn ht hfinite, Binary64.sameNumber_ofInt ha hb]

end Comparisons

/-- An integer of 64 bits is one double whichever way it comes in, by itself, as a JSON value, by its
numeral in a document, as an argument or as a literal: the one nearest to it, of two the one whose
last bit is zero. So it equals its numeral, also where it had to be rounded. Up to 53 bits nothing is
rounded, and an integer equals the numerals of no other. -/
theorem integers_enter_alike :
    (∀ n : Int, -2 ^ 63 ≤ n → n < 2 ^ 63 →
      Binary64.RoundsTo (decide (n < 0)) n.natAbs (.ofInt n) ∧
      (Binary64.ofInt n).isFinite = true ∧
      Scalar.ofJson (.integer n) = .ok (.number (.ofInt n)) ∧
      Json.read? (integer n) = some (.integer n) ∧
      Command.inlineValue (integer n) = .number (.ofInt n) ∧
      Literal.read .number (integer n) = .ok (.number (.ofInt n)) ∧
      ∀ v, Enters n v → v = .number (.ofInt n) ∧
        ∀ (table : Table) wanted name, IsName name → table name = some (.ofScalar v) →
          (resolve table wanted (Shape.equality name (integer n)).text).outcome =
            .ok (.boolean true)) ∧
    ∀ a b : Int, a.natAbs ≤ 2 ^ 53 → b.natAbs ≤ 2 ^ 53 → ∀ v, Enters a v →
      ∀ (table : Table) wanted name, IsName name → table name = some (.ofScalar v) →
        (resolve table wanted (Shape.equality name (integer b)).text).outcome =
          .ok (.boolean (decide (a = b))) := by
  constructor
  · intro n hlow hhigh
    have hfinite := Binary64.isFinite_ofInt (n := n) (by omega)
    have hdocument := Json.isDocument_integer hlow (by omega)
    refine ⟨Binary64.roundsTo_ofInt n, hfinite, rfl, hdocument.read?,
      Command.inlineValue_of_document hdocument rfl, Literal.read_integer hfinite, ?_⟩
    intro v hv
    refine ⟨hv.eq_ofInt hlow (by omega), fun table wanted name hn ht => ?_⟩
    exact resolve_equality_self hv hlow (by omega) hn ht wanted
  · intro a b ha hb v hv table wanted name hn ht
    exact resolve_equality_small hv ha hb hn ht wanted

/-- The largest integer of 64 bits, as an argument, and the largest one of 53 bits next to the first
that has more. -/
theorem integers_enter_alike_largest :
    let largest : Text := "9223372036854775807".toList
    let table : Scalar → Table := fun v _ => some (.ofScalar v)
    (resolve (table (Command.inlineValue largest)) .number
      ("\x7b\x7b params.N == ".toList ++ largest ++ " \x7d\x7d".toList)).outcome =
        .ok (.boolean true) ∧
      (resolve (table (.number (.ofInt 9007199254740992))) .number
        "\x7b\x7b params.N == 9007199254740991 \x7d\x7d".toList).outcome =
          .ok (.boolean false) := by
  intro largest table
  obtain ⟨hsame, hcompare⟩ := integers_enter_alike
  constructor
  · obtain ⟨-, -, -, -, -, -, henters⟩ := hsame 9223372036854775807 (by decide) (by decide)
    exact (henters _ .argument).2 _ .number ['N'] (by decide) rfl
  · exact hcompare 9007199254740992 9007199254740991 (by decide) (by decide) _ .number _ .number
      ['N'] (by decide) rfl

end ParameterTemplates
