import ParameterTemplates.Proofs.Comparison
import ParameterTemplates.Proofs.Numerals
import ParameterTemplates.Proofs.Rounding

/-! Literals of numbers. A text is one exactly if, without the blanks around it, it is a decimal
numeral whose exact value is rounded to a finite double; that double is its value. The names of the
special doubles are refused, and so is all that is too large. -/
namespace ParameterTemplates
open Text

namespace Numeral

/-- The exact number that a numeral stands for, without its sign. -/
def magnitude (n : Numeral) : ℚ :=
  (natural n.whole + natural n.fraction / 10 ^ n.fraction.length) * 10 ^ n.exponent

theorem natural_append (s t : Text) :
    natural (s ++ t) = 10 ^ t.length * natural s + natural t := by
  rw [natural, Nat.ofDigitChars_append, Nat.ofDigitChars_eq_ofDigitChars_zero]
  rfl

theorem coefficient_mul_eq_magnitude (n : Numeral) :
    (n.coefficient * 10 ^ n.scale : ℚ) = n.magnitude := by
  have hten : (10 : ℚ) ≠ 0 := by norm_num
  rw [coefficient, natural_append, scale, magnitude, zpow_sub₀ hten, zpow_natCast]
  push_cast
  field_simp

theorem roundsTo_toBinary64 (n : Numeral) :
    Binary64.RoundsTo n.negative n.magnitude n.toBinary64 := by
  rw [← coefficient_mul_eq_magnitude]
  exact Binary64.roundsTo_ofDecimal n.negative n.coefficient n.scale

theorem toNat_of_isDigit {c : Char} (h : c.isDigit = true) : 48 ≤ c.toNat ∧ c.toNat ≤ 57 :=
  Char.isDigit_iff_toNat.mp h

theorem isBlank_eq_false_of_isNumeralChar {c : Char} (h : isNumeralChar c = true) :
    isBlank c = false := by
  rcases isNumeralChar_iff.mp h with h | h
  · have := toNat_of_isDigit h
    exact Template.isBlank_eq_false (by omega) (by omega)
  · have hmarks : ∀ d ∈ marks, isBlank d = false := by simp [marks, isBlank]
    exact hmarks c h

theorem Written.ne_nil {n : Numeral} {t : Text} (h : n.Written t) : t ≠ [] := by
  rintro rfl
  exact nomatch (show Numeral.read? [] = none from rfl).symm.trans h.read?

/-- A numeral has no blanks around it. -/
theorem Written.trim_eq {n : Numeral} {t : Text} (h : n.Written t) : trim t = t := by
  have hsolid : ∀ c ∈ t, isBlank c = false := fun c hc =>
    isBlank_eq_false_of_isNumeralChar (h.isNumeralChar c hc)
  simpa using Template.trim_eq Template.isGap_nil
    (fun c hc => hsolid c (List.mem_of_mem_head? hc))
    (fun c hc => hsolid c (List.mem_of_mem_getLast? hc)) h.ne_nil Template.isGap_nil

theorem toNat_of_toLower {c : Char} (h : c.toLower = 'n') :
    (65 ≤ c.toNat ∧ c.toNat ≤ 90) ∨ c = 'n' := by
  unfold Char.toLower at h
  split at h
  · next hupper =>
    exact .inl ⟨UInt32.le_iff_toNat_le.mp hupper.1, UInt32.le_iff_toNat_le.mp hupper.2⟩
  · exact .inr h

theorem toLower_ne_of_isNumeralChar {c : Char} (h : isNumeralChar c = true) : c.toLower ≠ 'n' := by
  rcases isNumeralChar_iff.mp h with h | h
  · intro hlower
    have hdigit := toNat_of_isDigit h
    rcases toNat_of_toLower hlower with hupper | rfl
    · omega
    · contradiction
  · have hmarks : ∀ d ∈ marks, d.toLower ≠ 'n' := by simp [marks]
    exact hmarks c h

end Numeral

theorem Binary64.isFinite_of_special? {negative : Bool} {t : Text} {x : Binary64}
    (h : special? negative t = some x) : x.isFinite = false := by
  simp only [special?] at h
  split at h
  · cases h
    rfl
  · obtain ⟨-, h⟩ := Option.ite_none_right_eq_some.mp h
    cases h
    rfl

/-- Of the doubles that can be read only those of numerals are finite. -/
theorem Binary64.read?_eq_some_iff_of_isFinite {t : Text} {x : Binary64} (h : x.isFinite = true) :
    read? t = some x ↔ ∃ n : Numeral, n.Written t ∧ RoundsTo n.negative n.magnitude x := by
  constructor
  · intro hread
    unfold read? at hread
    split at hread
    · next n hn =>
      obtain rfl := Option.some.inj hread
      exact ⟨n, Numeral.read?_eq_some_iff.mp hn, n.roundsTo_toBinary64⟩
    · rw [isFinite_of_special? hread] at h
      contradiction
  · rintro ⟨n, hn, hx⟩
    rw [hx.unique n.roundsTo_toBinary64, read?, hn.read?]

namespace Literal

variable {t : Text} {v : Scalar}

theorem read_eq_ok_iff {wanted : ValueType} : read wanted t = .ok v ↔ read? wanted t = some v := by
  unfold read
  cases read? wanted t <;> simp

theorem read_eq_malformed {wanted : ValueType} (h : ∀ v, read wanted t ≠ .ok v) :
    read wanted t = .error (.malformed t wanted) := by
  unfold read at h ⊢
  cases hv : read? wanted t with
  | none => rfl
  | some v => exact absurd (by rw [hv]) (h v)

theorem number?_eq_some_iff : number? t = some v ↔
    ∃ x, Binary64.read? (trim t) = some x ∧ x.isFinite = true ∧ v = .number x := by
  unfold number?
  cases Binary64.read? (trim t) with
  | none => simp
  | some x =>
    cases hfinite : x.isFinite <;> simp [hfinite, eq_comm (a := v)]

theorem read_number_eq_ok_iff : read .number t = .ok v ↔
    ∃ (n : Numeral) (x : Binary64), n.Written (trim t) ∧
      Binary64.RoundsTo n.negative n.magnitude x ∧ x.isFinite = true ∧ v = .number x := by
  have hread : read .number t = .ok v ↔ number? t = some v := read_eq_ok_iff
  rw [hread, number?_eq_some_iff]
  constructor
  · rintro ⟨x, hx, hfinite, rfl⟩
    obtain ⟨n, hn, hrounds⟩ := (Binary64.read?_eq_some_iff_of_isFinite hfinite).mp hx
    exact ⟨n, x, hn, hrounds, hfinite, rfl⟩
  · rintro ⟨n, x, hn, hrounds, hfinite, rfl⟩
    exact ⟨x, (Binary64.read?_eq_some_iff_of_isFinite hfinite).mpr ⟨n, hn, hrounds⟩, hfinite, rfl⟩

/-- A numeral is a literal as long as it is not too large. -/
theorem exists_read_number_iff {n : Numeral} (h : n.Written (trim t)) :
    (∃ v, read .number t = .ok v) ↔ n.magnitude < Binary64.overflowBound := by
  rw [← n.roundsTo_toBinary64.isFinite_iff]
  constructor
  · rintro ⟨v, hv⟩
    obtain ⟨m, x, hm, hrounds, hfinite, -⟩ := read_number_eq_ok_iff.mp hv
    obtain rfl := h.unique hm
    rwa [n.roundsTo_toBinary64.unique hrounds]
  · intro hfinite
    exact ⟨_, read_number_eq_ok_iff.mpr ⟨n, _, h, n.roundsTo_toBinary64, hfinite, rfl⟩⟩

/-- Without the blanks around it a number has only characters of numerals. -/
theorem isNumeralChar_of_read_number (h : read .number t = .ok v) :
    ∀ c ∈ trim t, Numeral.isNumeralChar c = true := by
  obtain ⟨n, x, hn, -⟩ := read_number_eq_ok_iff.mp h
  exact hn.isNumeralChar

/-- A blank between the characters of a number is refused. -/
theorem read_number_of_blank {c : Char} (hc : c ∈ trim t) (hblank : isBlank c = true) :
    read .number t = .error (.malformed t .number) := by
  refine read_eq_malformed fun v hv => ?_
  have := Numeral.isBlank_eq_false_of_isNumeralChar (isNumeralChar_of_read_number hv c hc)
  rw [hblank] at this
  contradiction

/-- The names of the special doubles, in small letters. -/
def specialNames : List Text := ["inf".toList, "infinity".toList, "nan".toList]

/-- The names of the special doubles are refused in any case and whatever stands around them. -/
theorem read_number_of_special {name : Text} (h : name.map Char.toLower ∈ specialNames)
    (a b : Text) :
    read .number (a ++ name ++ b) = .error (.malformed (a ++ name ++ b) .number) := by
  -- each of these names has the letter n, which is no blank and stands in no numeral
  have hletters : ∀ special ∈ specialNames, 'n' ∈ special := by decide
  obtain ⟨c, hc, hlower⟩ := List.mem_map.mp (hletters _ h)
  have hblank : isBlank c = false := by
    rcases Numeral.toNat_of_toLower hlower with hupper | rfl
    · exact Template.isBlank_eq_false (by omega) (by omega)
    · decide
  have hmem : c ∈ trim (a ++ name ++ b) := Template.mem_trim (by simp [hc]) hblank
  exact read_eq_malformed fun v hv =>
    Numeral.toLower_ne_of_isNumeralChar (isNumeralChar_of_read_number hv c hmem) hlower

end Literal

section Comparisons

variable {table : Table} {name : Text} {p : Parameter} {x : Binary64}

/-- No literal equals a number that is not finite, for every literal is. -/
theorem evaluateEquality_ne_true_of_not_finite (hp : table name = some p)
    (ht : p.FirstLegal .number) (hx : p.asNumber = some x) (hinfinite : x.isFinite = false)
    (rhs : Text) : (evaluateEquality table name rhs).outcome ≠ .ok true := by
  have haccess : p.access .number = some (.number x) := by simp [Parameter.access, hx]
  rw [evaluateEquality_outcome_of_firstLegal hp ht, haccess]
  cases hv : Literal.read? .number rhs with
  | none => simp
  | some v =>
    obtain ⟨y, -, hy, rfl⟩ := Literal.number?_eq_some_iff.mp hv
    cases y with
    | nan | infinity => contradiction
    | finite => cases x <;> simp_all [Scalar.sameValue, Binary64.sameNumber, Binary64.isFinite]

end Comparisons

/-- A text is a literal of a number exactly if without the blanks around it it is a numeral whose
exact value is rounded to a finite double, and that double is its value; every other text is refused
as it stands. Numerals are refused from the middle beyond the largest double on, and so is whatever
has a blank inside or the name of a special double. A number that is not finite equals no literal. -/
theorem number_literals_exact :
    (∀ t v, Literal.read .number t = .ok v ↔
      ∃ (n : Numeral) (x : Binary64), n.Written (trim t) ∧
        Binary64.RoundsTo n.negative n.magnitude x ∧ x.isFinite = true ∧ v = .number x) ∧
    (∀ t, (∀ v, Literal.read .number t ≠ .ok v) →
      Literal.read .number t = .error (.malformed t .number)) ∧
    (∀ t (n : Numeral), n.Written (trim t) →
      ((∃ v, Literal.read .number t = .ok v) ↔ n.magnitude < Binary64.overflowBound)) ∧
    (∀ name a b, name.map Char.toLower ∈ Literal.specialNames →
      Literal.read .number (a ++ name ++ b) = .error (.malformed (a ++ name ++ b) .number)) ∧
    (∀ t, ∀ c ∈ trim t, isBlank c = true →
      Literal.read .number t = .error (.malformed t .number)) ∧
    ∀ (table : Table) name (p : Parameter) x rhs, table name = some p → p.FirstLegal .number →
      p.asNumber = some x → x.isFinite = false →
      (evaluateEquality table name rhs).outcome ≠ .ok true := by
  refine ⟨?_, ?_, ?_, ?_, ?_, ?_⟩
  · intro t v
    exact Literal.read_number_eq_ok_iff
  · intro t h
    exact Literal.read_eq_malformed h
  · intro t n hn
    exact Literal.exists_read_number_iff hn
  · intro name a b hname
    exact Literal.read_number_of_special hname a b
  · intro t c hc hblank
    exact Literal.read_number_of_blank hc hblank
  · intro table name p x rhs hp ht hx hfinite
    exact evaluateEquality_ne_true_of_not_finite hp ht hx hfinite rhs

/-- Numerals on both sides of the middle beyond the largest double, a name, a blank inside, and an
infinite parameter. -/
theorem number_literals_exact_largest :
    let largest : Text := " +1.7976931348623158E308\u3000".toList
    let beyond : Text := "1.7976931348623159e+308".toList
    let table : Table := fun _ => some ⟨false, true, true, none, some (.infinity false), some true⟩
    Literal.read .number largest = .ok (.number (.ofDecimal false 17976931348623157 292)) ∧
      (∃ n : Numeral, n.Written (trim largest) ∧ n.magnitude < Binary64.overflowBound) ∧
      Literal.read .number beyond = .error (.malformed beyond .number) ∧
      (∃ n : Numeral, n.Written (trim beyond) ∧ ¬ n.magnitude < Binary64.overflowBound) ∧
      Literal.read .number "-InFinity".toList = .error (.malformed "-InFinity".toList .number) ∧
      Literal.read .number "1 2".toList = .error (.malformed "1 2".toList .number) ∧
      (evaluateEquality table ['x'] "1e999".toList).outcome ≠ .ok true := by
  intro largest beyond table
  obtain ⟨hexact, hmalformed, hbound, hspecial, hblank, hcompare⟩ := number_literals_exact
  have hlargest : Literal.read .number largest =
      .ok (.number (.ofDecimal false 17976931348623157 292)) := by decide +kernel
  have hbeyond : Numeral.Written ⟨false, ['1'], "7976931348623159".toList, 308⟩ (trim beyond) :=
    Numeral.read?_eq_some_iff.mp (by decide +kernel)
  have hrefused : ∀ v, Literal.read .number beyond ≠ .ok v := by
    have hread : Literal.read .number beyond = .error (.malformed beyond .number) := by
      decide +kernel
    simp [hread]
  obtain ⟨n, x, hn, -, -, -⟩ := (hexact _ _).mp hlargest
  refine ⟨hlargest, ⟨n, hn, (hbound _ n hn).mp ⟨_, hlargest⟩⟩, hmalformed _ hrefused,
    ⟨_, hbeyond, fun h => ?_⟩, ?_, ?_, ?_⟩
  · obtain ⟨v, hv⟩ := (hbound _ _ hbeyond).mpr h
    exact hrefused v hv
  · exact hspecial "InFinity".toList ['-'] [] (by decide)
  · exact hblank _ ' ' (by decide) (by decide)
  · exact hcompare table ['x'] _ _ _ rfl (.number rfl rfl) rfl rfl

end ParameterTemplates
