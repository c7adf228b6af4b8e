import ParameterTemplates.Number.Shortest
import ParameterTemplates.Proofs.Integers

/-! The decimals that doubles are written with. A decimal reads back to a double if the double is
what its exact value is rounded to. Of the multiples of a power of ten the two around a magnitude
tell whether any of them reads back, and of those with 17 digits one always does. So the trial ends
with a decimal that reads back, and none that does has fewer digits. -/
namespace ParameterTemplates
open NumberFormat

namespace Decimal

variable {d : Decimal} {m : Magnitude}

/-- The number that a decimal is. -/
def value (d : Decimal) : ℚ := d.digits * 10 ^ d.exponent

theorem roundsTo_toBinary64 (d : Decimal) : Binary64.RoundsTo false d.value d.toBinary64 :=
  Binary64.roundsTo_ofDecimal false d.digits d.exponent

/-- Whether a decimal is read as a given magnitude. -/
def ReadsBack (m : Magnitude) (d : Decimal) : Prop := d.toBinary64 = .finite false m

instance : Decidable (d.ReadsBack m) := inferInstanceAs (Decidable (_ = _))

theorem readsBack_iff : d.ReadsBack m ↔ Binary64.RoundsTo false d.value (.finite false m) := by
  constructor
  · intro h
    have hrounds := d.roundsTo_toBinary64
    rwa [h] at hrounds
  · exact d.roundsTo_toBinary64.unique

theorem digits_ne_zero_of_readsBack (h : d.ReadsBack m) (hm : m.units ≠ 0) : d.digits ≠ 0 := by
  intro hzero
  rw [ReadsBack, toBinary64, hzero, Binary64.ofDecimal, if_pos rfl] at h
  cases h
  exact hm rfl

/-- What lies between a magnitude and a number that is rounded to it reads back. -/
theorem readsBack_of_between {q : ℚ} (hq : Binary64.RoundsTo false q (.finite false m))
    (h : q ≤ d.value ∧ d.value ≤ m.value ∨ m.value ≤ d.value ∧ d.value ≤ q) : d.ReadsBack m := by
  have hm := Binary64.roundsTo_value false m
  rcases h with ⟨hlow, hhigh⟩ | ⟨hlow, hhigh⟩
  · exact Binary64.RoundsTo.eq_of_between hq hlow hm hhigh d.roundsTo_toBinary64
  · exact Binary64.RoundsTo.eq_of_between hm hlow hq hhigh d.roundsTo_toBinary64

theorem value_whole (n : Nat) : value ⟨n, 0⟩ = n := by
  rw [value, zpow_zero, mul_one]

/-- A zero at the end of the digits is worth one more in the exponent. -/
theorem value_zeros (n k : Nat) (e : Int) : value ⟨n * 10 ^ k, e⟩ = value ⟨n, e + k⟩ := by
  rw [value, value, zpow_add₀ (by norm_num), zpow_natCast]
  push_cast
  ring

/-- Zeros are dropped from the digits and counted in the exponent. -/
theorem exists_withoutZeros (steps : Nat) (d : Decimal) :
    ∃ k : Nat, d.digits = (d.withoutZeros steps).digits * 10 ^ k ∧
      (d.withoutZeros steps).exponent = d.exponent + k := by
  induction steps generalizing d with
  | zero => exact ⟨0, by simp [withoutZeros]⟩
  | succ steps ih =>
    rw [withoutZeros]
    split
    · next h =>
      obtain ⟨k, hdigits, hexponent⟩ := ih ⟨d.digits / 10, d.exponent + 1⟩
      simp only at hdigits hexponent
      refine ⟨k + 1, ?_, ?_⟩
      · rw [pow_succ, ← mul_assoc, ← hdigits]
        omega
      · rw [hexponent]
        push_cast
        ring
    · exact ⟨0, by simp⟩

theorem value_withoutZeros (steps : Nat) (d : Decimal) :
    (d.withoutZeros steps).value = d.value := by
  obtain ⟨k, hdigits, hexponent⟩ := exists_withoutZeros steps d
  have hzeros := value_zeros (d.withoutZeros steps).digits k d.exponent
  rw [← hdigits, ← hexponent] at hzeros
  exact hzeros.symm

/-- The last digit that stays is no zero, if there are steps enough. -/
theorem withoutZeros_digits_mod_ne {steps : Nat} (hd : d.digits ≠ 0) (h : d.digits < 10 ^ steps) :
    (d.withoutZeros steps).digits % 10 ≠ 0 := by
  induction steps generalizing d with
  | zero => omega
  | succ steps ih =>
    rw [withoutZeros]
    split
    · exact ih (d := ⟨d.digits / 10, d.exponent + 1⟩) (by simp only; omega)
        (by simp only; rw [pow_succ] at h; omega)
    · next hzero => exact fun hmod => hzero ⟨hd, hmod⟩

/-- How many digits a decimal has. -/
def length (d : Decimal) : Nat := (NumberFormat.digits d.digits).length

theorem length_pos (d : Decimal) : 0 < d.length := Nat.length_toDigits_pos

theorem length_le_iff {k : Nat} (hk : 0 < k) : d.length ≤ k ↔ d.digits < 10 ^ k :=
  Nat.length_toDigits_le_iff (by decide) hk

/-- Of the numbers up to a power of ten the power itself loses its zeros, and the others have no
more digits than it has zeros. -/
theorem length_withoutZeros_le {steps k : Nat} (hd : d.digits ≠ 0) (h : d.digits ≤ 10 ^ k)
    (hk : 0 < k) (hsteps : k < steps) : (d.withoutZeros steps).length ≤ k := by
  obtain ⟨j, hdigits, -⟩ := exists_withoutZeros steps d
  have hlast := withoutZeros_digits_mod_ne hd (h.trans_lt (Nat.pow_lt_pow_right (by decide) hsteps))
  have hle : (d.withoutZeros steps).digits ≤ 10 ^ k := by
    calc (d.withoutZeros steps).digits ≤ (d.withoutZeros steps).digits * 10 ^ j :=
          Nat.le_mul_of_pos_right _ (by positivity)
      _ = d.digits := hdigits.symm
      _ ≤ 10 ^ k := h
  rw [length_le_iff hk]
  refine lt_of_le_of_ne hle fun hpower => ?_
  rw [hpower] at hlast
  exact hlast (Nat.mod_eq_zero_of_dvd (dvd_pow_self 10 hk.ne'))

end Decimal

namespace Magnitude

variable {m : Magnitude} {tie : Tie} {e : Int} {length : Nat} {d : Decimal}

section Neighbours

theorem overPowerOfTen_pos (m : Magnitude) (e : Int) : 0 < (m.overPowerOfTen e).2 := by
  unfold overPowerOfTen
  split <;> simp only
  · exact Nat.mul_pos unitsPerOne_pos (Nat.pow_pos (by decide))
  · exact unitsPerOne_pos

theorem overPowerOfTen_eq (m : Magnitude) (e : Int) :
    ((m.overPowerOfTen e).1 / (m.overPowerOfTen e).2 : ℚ) = m.value / 10 ^ e := by
  unfold overPowerOfTen value
  split
  · next he =>
    obtain ⟨k, rfl⟩ := Int.eq_ofNat_of_zero_le he
    simp only [Int.toNat_natCast, Nat.pow_eq, zpow_natCast, Nat.cast_mul, Nat.cast_pow,
      Nat.cast_ofNat, div_div]
  · next he =>
    obtain ⟨k, rfl⟩ : ∃ k : Nat, e = -k := ⟨(-e).toNat, by omega⟩
    simp only [neg_neg, Int.toNat_natCast, Nat.pow_eq, zpow_neg, zpow_natCast, Nat.cast_mul,
      Nat.cast_pow, Nat.cast_ofNat, div_inv_eq_mul]
    ring

/-- The neighbour of a magnitude below it among the multiples of a power of ten. -/
def below (m : Magnitude) (e : Int) : Decimal :=
  ⟨(m.overPowerOfTen e).1 / (m.overPowerOfTen e).2, e⟩

/-- The neighbour above. -/
def above (m : Magnitude) (e : Int) : Decimal := ⟨(m.below e).digits + 1, e⟩

/-- How much of the step between its neighbours a magnitude lies above the lower one. -/
def excess (m : Magnitude) (e : Int) : ℚ :=
  ((m.overPowerOfTen e).1 % (m.overPowerOfTen e).2 : Nat) / (m.overPowerOfTen e).2

theorem excess_nonneg (m : Magnitude) (e : Int) : 0 ≤ m.excess e :=
  div_nonneg (Nat.cast_nonneg _) (Nat.cast_nonneg _)

theorem excess_lt_one (m : Magnitude) (e : Int) : m.excess e < 1 := by
  have hden := m.overPowerOfTen_pos e
  have hpos : (0 : ℚ) < (m.overPowerOfTen e).2 := by exact_mod_cast hden
  rw [excess, div_lt_one hpos]
  exact_mod_cast Nat.mod_lt _ hden

theorem value_above (m : Magnitude) (e : Int) :
    (m.above e).value = (m.below e).value + 10 ^ e := by
  rw [Decimal.value, Decimal.value, above, Nat.cast_add, Nat.cast_one, add_mul, one_mul]
  rfl

theorem value_eq_below_add (m : Magnitude) (e : Int) :
    m.value = (m.below e).value + m.excess e * 10 ^ e := by
  have hden : ((m.overPowerOfTen e).2 : ℚ) ≠ 0 := by exact_mod_cast (m.overPowerOfTen_pos e).ne'
  have hstep : (10 : ℚ) ^ e ≠ 0 := zpow_ne_zero e (by norm_num)
  have hsplit : ((m.overPowerOfTen e).1 : ℚ) =
      (m.overPowerOfTen e).2 * (m.below e).digits +
        ((m.overPowerOfTen e).1 % (m.overPowerOfTen e).2 : Nat) := by
    exact_mod_cast (Nat.div_add_mod _ _).symm
  have hquot := m.overPowerOfTen_eq e
  rw [hsplit, add_div, mul_div_cancel_left₀ _ hden, eq_div_iff hstep, add_mul] at hquot
  exact hquot.symm

theorem below_le (m : Magnitude) (e : Int) : (m.below e).value ≤ m.value := by
  have hstep : (0 : ℚ) < 10 ^ e := zpow_pos (by norm_num) e
  rw [m.value_eq_below_add e]
  exact le_add_of_nonneg_right (mul_nonneg (m.excess_nonneg e) hstep.le)

theorem lt_above (m : Magnitude) (e : Int) : m.value < (m.above e).value := by
  have hstep : (0 : ℚ) < 10 ^ e := zpow_pos (by norm_num) e
  rw [m.value_eq_below_add e, value_above, add_lt_add_iff_left]
  exact mul_lt_of_lt_one_left hstep (m.excess_lt_one e)

theorem mem_neighbours_iff : d ∈ m.neighbours tie e ↔ d = m.below e ∨ d = m.above e := by
  simp only [neighbours, below, above]
  split <;> simp [or_comm]

/-- The neighbour that is tried first is no farther than the other one. -/
theorem exists_neighbours_eq (tie : Tie) (m : Magnitude) (e : Int) :
    ∃ a b, m.neighbours tie e = [a, b] ∧ |m.value - a.value| ≤ |m.value - b.value| := by
  have hstep : (0 : ℚ) < 10 ^ e := zpow_pos (by norm_num) e
  have hpos : (0 : ℚ) < (m.overPowerOfTen e).2 := by exact_mod_cast m.overPowerOfTen_pos e
  have hbelow : |m.value - (m.below e).value| = m.excess e * 10 ^ e := by
    rw [m.value_eq_below_add e, add_sub_cancel_left]
    exact abs_of_nonneg (mul_nonneg (m.excess_nonneg e) hstep.le)
  have habove : |m.value - (m.above e).value| = (1 - m.excess e) * 10 ^ e := by
    rw [abs_sub_comm, m.value_eq_below_add e, value_above, add_sub_add_left_eq_sub, sub_mul,
      one_mul]
    exact abs_of_nonneg (sub_nonneg_of_le (mul_le_of_le_one_left hstep.le (m.excess_lt_one e).le))
  simp only [neighbours]
  split
  · next hup =>
    have hhalf : (m.overPowerOfTen e).2 ≤
        2 * ((m.overPowerOfTen e).1 % (m.overPowerOfTen e).2) := by
      simp only [Bool.or_eq_true, Bool.and_eq_true, decide_eq_true_eq, beq_iff_eq] at hup
      omega
    refine ⟨m.above e, m.below e, rfl, ?_⟩
    rw [hbelow, habove, mul_le_mul_iff_left₀ hstep, excess, sub_le_iff_le_add, ← add_div,
      one_le_div hpos]
    exact_mod_cast (Nat.two_mul _ ▸ hhalf)
  · next hdown =>
    have hhalf : 2 * ((m.overPowerOfTen e).1 % (m.overPowerOfTen e).2) ≤
        (m.overPowerOfTen e).2 := by
      simp only [Bool.or_eq_true, Bool.and_eq_true, decide_eq_true_eq, beq_iff_eq, not_or] at hdown
      omega
    refine ⟨m.below e, m.above e, rfl, ?_⟩
    rw [hbelow, habove, mul_le_mul_iff_left₀ hstep, excess, le_sub_iff_add_le, ← add_div,
      div_le_one hpos]
    exact_mod_cast (Nat.two_mul _ ▸ hhalf)

/-- A decimal that reads back and does not lie between two neighbours is beyond one of them, which
reads back as well. -/
theorem exists_neighbour_of_beyond (h : d.ReadsBack m)
    (hbeyond : d.value ≤ (m.below e).value ∨ (m.above e).value ≤ d.value) (tie : Tie) :
    ∃ c ∈ m.neighbours tie e, c.ReadsBack m ∧ |m.value - c.value| ≤ |m.value - d.value| := by
  have hrounds := Decimal.readsBack_iff.mp h
  have hlow := m.below_le e
  have hhigh := m.lt_above e
  rcases hbeyond with hd | hd
  · refine ⟨m.below e, mem_neighbours_iff.mpr (.inl rfl),
      Decimal.readsBack_of_between hrounds (.inl ⟨hd, hlow⟩), ?_⟩
    rw [abs_of_nonneg (by linarith), abs_of_nonneg (by linarith)]
    linarith
  · refine ⟨m.above e, mem_neighbours_iff.mpr (.inr rfl),
      Decimal.readsBack_of_between hrounds (.inr ⟨hhigh.le, hd⟩), ?_⟩
    rw [abs_of_nonpos (by linarith), abs_of_nonpos (by linarith)]
    linarith

/-- One of two neighbours is no farther than half a step, which is nothing to a magnitude that has
many steps. -/
theorem exists_neighbour_of_many (hm : m.units ≠ 0) (h : 10 ^ 16 * 10 ^ e ≤ m.value) (tie : Tie) :
    ∃ d ∈ m.neighbours tie e, d.ReadsBack m := by
  have hlow := m.below_le e
  have hhigh := m.lt_above e
  have hstep := m.value_above e
  have hpos : (0 : ℚ) < 10 ^ e := zpow_pos (by norm_num) e
  rcases le_total m.value ((m.below e).value + 10 ^ e / 2) with hhalf | hhalf
  · refine ⟨m.below e, mem_neighbours_iff.mpr (.inl rfl),
      Decimal.readsBack_iff.mpr (Binary64.roundsTo_of_near hm ?_)⟩
    rw [abs_of_nonpos (by linarith)]
    linarith
  · refine ⟨m.above e, mem_neighbours_iff.mpr (.inr rfl),
      Decimal.readsBack_iff.mpr (Binary64.roundsTo_of_near hm ?_)⟩
    rw [abs_of_nonneg (by linarith)]
    linarith

/-- No multiple of a step lies between two neighbours. -/
theorem beyond_of_multiple (k : Nat) (hd : d.value = k * 10 ^ e) :
    d.value ≤ (m.below e).value ∨ (m.above e).value ≤ d.value := by
  have hpos : (0 : ℚ) ≤ 10 ^ e := zpow_nonneg (by norm_num) e
  rw [hd]
  rcases Nat.lt_or_ge (m.below e).digits k with hk | hk
  · exact .inr (mul_le_mul_of_nonneg_right (by exact_mod_cast hk) hpos)
  · exact .inl (mul_le_mul_of_nonneg_right (by exact_mod_cast hk) hpos)

end Neighbours

section Leading

/-- The power of ten of the leading digit of a quotient, from the digits of the quotient of a
multiple. -/
theorem ten_zpow_length_le {a b k : Nat} (hb : 0 < b) (h : b ≤ a * 10 ^ k) :
    (10 : ℚ) ^ ((digits (a * 10 ^ k / b)).length - 1 - k : Int) ≤ a / b := by
  have hpos : 0 < (digits (a * 10 ^ k / b)).length := Nat.length_toDigits_pos
  have hlow := ten_pow_pred_length_le (Nat.div_pos h hb).ne'
  have hquot : ((a * 10 ^ k / b : Nat) : ℚ) ≤ (a * 10 ^ k : Nat) / b := Nat.cast_div_le
  obtain ⟨n, hn⟩ := Nat.exists_eq_add_of_lt hpos
  have hexponent : ((digits (a * 10 ^ k / b)).length - 1 - k : Int) = (n : Int) - k := by
    rw [hn]
    push_cast
    ring
  rw [hn, Nat.zero_add, Nat.add_sub_cancel] at hlow
  rw [hexponent, zpow_sub₀ (by norm_num), zpow_natCast, zpow_natCast,
    div_le_iff₀ (pow_pos (by norm_num) k)]
  calc (10 : ℚ) ^ n ≤ (a * 10 ^ k / b : Nat) := by exact_mod_cast hlow
    _ ≤ (a * 10 ^ k : Nat) / b := hquot
    _ = a / b * 10 ^ k := by
      push_cast
      ring

theorem lt_ten_zpow_length {a b k : Nat} (hb : 0 < b) :
    (a / b : ℚ) < 10 ^ ((digits (a * 10 ^ k / b)).length - k : Int) := by
  have hlength := Nat.succ_le_of_lt (lt_ten_pow_length (a * 10 ^ k / b))
  have hquot := Nat.lt_mul_div_succ (a * 10 ^ k) hb
  have hpos : (0 : ℚ) < b := by exact_mod_cast hb
  rw [zpow_sub₀ (by norm_num), zpow_natCast, zpow_natCast, lt_div_iff₀ (pow_pos (by norm_num) k),
    div_mul_eq_mul_div, div_lt_iff₀ hpos]
  calc (a * 10 ^ k : ℚ) < b * (a * 10 ^ k / b + 1 : Nat) := by exact_mod_cast hquot
    _ ≤ b * 10 ^ (digits (a * 10 ^ k / b)).length :=
      mul_le_mul_of_nonneg_left (by exact_mod_cast hlength) hpos.le
    _ = 10 ^ (digits (a * 10 ^ k / b)).length * b := mul_comm _ _

/-- Already the least positive magnitude has a digit among the first 400 places. -/
theorem unitsPerOne_le_mul {n : Nat} (hn : n ≠ 0) : unitsPerOne ≤ n * 10 ^ 400 := by
  have h : 1074 ≤ 3 * 400 := by decide
  unfold unitsPerOne
  generalize 1074 = j at h ⊢
  generalize 400 = k at h ⊢
  calc 2 ^ j ≤ 2 ^ (3 * k) := Nat.pow_le_pow_right (by decide) h
    _ = 8 ^ k := Nat.pow_mul 2 3 k
    _ ≤ 10 ^ k := Nat.pow_le_pow_left (by decide) k
    _ ≤ n * 10 ^ k := Nat.le_mul_of_pos_left _ (Nat.pos_of_ne_zero hn)

theorem leadingExponent_eq (m : Magnitude) : m.leadingExponent =
    (digits (m.units * 10 ^ 400 / unitsPerOne)).length - 1 - (400 : Nat) := by
  have hplaces : (401 : Int) = 1 + (400 : Nat) := rfl
  rw [leadingExponent, hplaces, ← sub_sub]
  generalize 400 = k
  rfl

/-- The leading digit of a magnitude stands for a power of ten that is no greater. -/
theorem ten_zpow_leadingExponent_le (hm : m.units ≠ 0) : 10 ^ m.leadingExponent ≤ m.value := by
  rw [leadingExponent_eq]
  exact ten_zpow_length_le unitsPerOne_pos (unitsPerOne_le_mul hm)

theorem lt_ten_zpow_leadingExponent (m : Magnitude) : m.value < 10 ^ (m.leadingExponent + 1) := by
  rw [leadingExponent_eq, sub_right_comm, sub_add_cancel]
  exact lt_ten_zpow_length unitsPerOne_pos

end Leading

section Trial

/-- What a length of the trial ends with: of the two neighbours that read back the nearer one. -/
theorem decimalOfLength?_spec (h : m.decimalOfLength? tie length = some d) :
    d ∈ m.neighbours tie (m.leadingExponent - length + 1) ∧ d.ReadsBack m ∧
      ∀ c ∈ m.neighbours tie (m.leadingExponent - length + 1), c.ReadsBack m →
        |m.value - d.value| ≤ |m.value - c.value| := by
  have hfind : (m.neighbours tie (m.leadingExponent - length + 1)).find?
      (fun c => decide (c.ReadsBack m)) = some d := h
  have hback := List.find?_some (p := fun c : Decimal => decide (c.ReadsBack m)) hfind
  refine ⟨List.mem_of_find?_eq_some hfind, of_decide_eq_true hback, fun c hc hcback => ?_⟩
  obtain ⟨a, b, hab, hnear⟩ := exists_neighbours_eq tie m (m.leadingExponent - length + 1)
  rw [hab] at hfind hc
  simp only [List.find?_cons, List.find?_nil] at hfind
  rcases List.mem_pair.mp hc with rfl | rfl
  · rw [decide_eq_true hcback] at hfind
    rw [Option.some.inj hfind]
  · split at hfind
    · rwa [← Option.some.inj hfind]
    · rw [decide_eq_true hcback] at hfind
      rw [Option.some.inj hfind]

/-- The trial ends with the first length of which a neighbour reads back. -/
theorem exists_shortest_eq (hpos : 0 < length) (hle : length ≤ 17)
    (h : ∃ c ∈ m.neighbours tie (m.leadingExponent - length + 1), c.ReadsBack m) :
    ∃ k d, 0 < k ∧ k ≤ length ∧ m.decimalOfLength? tie k = some d ∧
      m.shortest tie = d.withoutZeros 1100 := by
  have hsplit : List.range' 1 17 =
      List.range' 1 length ++ List.range' (1 + length) (17 - length) := by
    rw [List.range'_append_1, Nat.add_sub_cancel' hle]
  have hhit : (m.decimalOfLength? tie length).isSome := by
    obtain ⟨c, hc, hback⟩ := h
    exact List.find?_isSome.mpr ⟨c, hc, decide_eq_true hback⟩
  have hsome : ((List.range' 1 length).findSome? (m.decimalOfLength? tie)).isSome := by
    rw [List.findSome?_isSome_iff]
    exact ⟨length, by simp [List.mem_range'_1]; omega, hhit⟩
  obtain ⟨d, hd⟩ := Option.isSome_iff_exists.mp hsome
  obtain ⟨k, hk, hkd⟩ := List.exists_of_findSome?_eq_some hd
  rw [List.mem_range'_1] at hk
  refine ⟨k, d, by omega, by omega, hkd, ?_⟩
  rw [shortest, hsplit, List.findSome?_append, hd]
  rfl

/-- A decimal does not lie between the neighbours with as many digits. If its steps are finer, it is
below the power of ten of the leading digit. -/
theorem beyond_of_length (hm : m.units ≠ 0) (d : Decimal) :
    d.value ≤ (m.below (m.leadingExponent - d.length + 1)).value ∨
      (m.above (m.leadingExponent - d.length + 1)).value ≤ d.value := by
  have hlead := ten_zpow_leadingExponent_le hm
  generalize m.leadingExponent = lead at hlead ⊢
  rcases le_or_gt (lead - d.length + 1) d.exponent with hcoarse | hfine
  · obtain ⟨k, hk⟩ := Int.eq_ofNat_of_zero_le (Int.sub_nonneg_of_le hcoarse)
    have hvalue := Decimal.value_zeros d.digits k (lead - d.length + 1)
    rw [← hk, add_sub_cancel] at hvalue
    exact beyond_of_multiple _ hvalue.symm
  · have hlength := d.length_pos
    have hpower : Decimal.value ⟨1 * 10 ^ (d.length - 1), lead - d.length + 1⟩ = 10 ^ lead := by
      have hexponent : lead - d.length + 1 + (d.length - 1 : Nat) = lead := by omega
      rw [Decimal.value_zeros, Decimal.value, hexponent, Nat.cast_one, one_mul]
    have hsmall : d.value ≤ 10 ^ lead := by
      have hdigits : (d.digits : ℚ) ≤ 10 ^ d.length := by
        exact_mod_cast ((d.length_le_iff hlength).mp le_rfl).le
      calc d.value ≤ 10 ^ d.length * 10 ^ d.exponent :=
            mul_le_mul_of_nonneg_right hdigits (zpow_nonneg (by norm_num) _)
        _ = 10 ^ (d.length + d.exponent) := by rw [zpow_add₀ (by norm_num), zpow_natCast]
        _ ≤ 10 ^ lead := zpow_le_zpow_right₀ (by norm_num) (by omega)
    rcases beyond_of_multiple (m := m) _ (rfl : Decimal.value ⟨1 * 10 ^ (d.length - 1), _⟩ = _)
      with hlow | hhigh
    · rw [hpower] at hlow
      exact .inl (hsmall.trans hlow)
    · rw [hpower] at hhigh
      exact absurd (m.lt_above _) (not_lt.mpr (hhigh.trans hlead))

theorem exists_neighbour_of_readsBack (hm : m.units ≠ 0) (h : d.ReadsBack m) (tie : Tie) :
    ∃ c ∈ m.neighbours tie (m.leadingExponent - d.length + 1), c.ReadsBack m ∧
      |m.value - c.value| ≤ |m.value - d.value| :=
  exists_neighbour_of_beyond h (beyond_of_length hm d) tie

/-- Seventeen digits are always enough. -/
theorem exists_neighbour_of_length_17 (hm : m.units ≠ 0) (tie : Tie) :
    ∃ c ∈ m.neighbours tie (m.leadingExponent - (17 : Nat) + 1), c.ReadsBack m := by
  have hlead := ten_zpow_leadingExponent_le hm
  have hsplit : m.leadingExponent = (16 : Nat) + (m.leadingExponent - (17 : Nat) + 1) := by
    push_cast
    ring
  rw [hsplit, zpow_add₀ (by norm_num), zpow_natCast] at hlead
  exact exists_neighbour_of_many hm hlead tie

/-- A decimal that the trial finds has no more digits than it was looked for with, once the zeros at
its end are dropped. -/
theorem length_le_of_decimalOfLength? (hm : m.units ≠ 0) (hpos : 0 < length) (hle : length ≤ 17)
    (h : m.decimalOfLength? tie length = some d) : (d.withoutZeros 1100).length ≤ length := by
  have hlead := ten_zpow_leadingExponent_le hm
  have hlast := m.lt_ten_zpow_leadingExponent
  obtain ⟨hmem, -, -⟩ := decimalOfLength?_spec h
  generalize m.leadingExponent = lead at hlead hlast hmem
  have hstep : (0 : ℚ) < 10 ^ (lead - length + 1) := zpow_pos (by norm_num) _
  have hexponent : lead + 1 = length + (lead - length + 1) := by omega
  -- the step goes into the magnitude at least once and less than `10 ^ length` times
  have hsome : (m.below (lead - length + 1)).digits ≠ 0 := by
    intro hzero
    have hlt := m.lt_above (lead - length + 1)
    have hle : (10 : ℚ) ^ (lead - length + 1) ≤ 10 ^ lead :=
      zpow_le_zpow_right₀ (by norm_num) (by omega)
    rw [value_above, Decimal.value, hzero, Nat.cast_zero, zero_mul, zero_add] at hlt
    linarith
  have hmany : (m.below (lead - length + 1)).digits < 10 ^ length := by
    have hlt := (m.below_le (lead - length + 1)).trans_lt hlast
    rw [hexponent, zpow_add₀ (by norm_num), zpow_natCast] at hlt
    exact_mod_cast lt_of_mul_lt_mul_right hlt hstep.le
  have hdigits : d.digits ≠ 0 ∧ d.digits ≤ 10 ^ length := by
    rcases mem_neighbours_iff.mp hmem with rfl | rfl
    · exact ⟨hsome, hmany.le⟩
    · exact ⟨Nat.succ_ne_zero _, hmany⟩
  exact Decimal.length_withoutZeros_le hdigits.1 hdigits.2 hpos (by omega)

theorem readsBack_shortest (hm : m.units ≠ 0) (tie : Tie) : (m.shortest tie).ReadsBack m := by
  obtain ⟨k, d, -, -, hd, hshortest⟩ :=
    exists_shortest_eq (by decide) le_rfl (exists_neighbour_of_length_17 hm tie)
  have hback := Decimal.readsBack_iff.mp (decimalOfLength?_spec hd).2.1
  rw [hshortest, Decimal.readsBack_iff, Decimal.value_withoutZeros]
  exact hback

theorem length_shortest_le_of_neighbour (hm : m.units ≠ 0) (hpos : 0 < length) (hle : length ≤ 17)
    (h : ∃ c ∈ m.neighbours tie (m.leadingExponent - length + 1), c.ReadsBack m) :
    (m.shortest tie).length ≤ length := by
  obtain ⟨k, d, hk, hkl, hd, hshortest⟩ := exists_shortest_eq hpos hle h
  rw [hshortest]
  exact (length_le_of_decimalOfLength? hm hk (hkl.trans hle) hd).trans hkl

/-- No decimal that reads back has fewer digits. -/
theorem length_shortest_le (hm : m.units ≠ 0) (h : d.ReadsBack m) (tie : Tie) :
    (m.shortest tie).length ≤ d.length := by
  obtain ⟨c, hc, hback, -⟩ := exists_neighbour_of_readsBack hm h tie
  rcases Nat.le_or_ge d.length 17 with hle | hge
  · exact length_shortest_le_of_neighbour hm d.length_pos hle ⟨c, hc, hback⟩
  · exact (length_shortest_le_of_neighbour hm (by decide) le_rfl
      (exists_neighbour_of_length_17 hm tie)).trans hge

/-- A decimal that the trial finds is the nearest of those that read back with as many digits. -/
theorem abs_le_of_decimalOfLength? {c : Decimal} (hm : m.units ≠ 0)
    (hc : m.decimalOfLength? tie d.length = some c) (h : d.ReadsBack m) :
    |m.value - c.value| ≤ |m.value - d.value| := by
  obtain ⟨b, hb, hback, hnear⟩ := exists_neighbour_of_readsBack hm h tie
  obtain ⟨-, -, hnearest⟩ := decimalOfLength?_spec hc
  exact (hnearest b hb hback).trans hnear

/-- Of the decimals that read back with as few digits none is nearer. -/
theorem abs_shortest_le (hm : m.units ≠ 0) (h : d.ReadsBack m) {tie : Tie}
    (hlength : d.length = (m.shortest tie).length) :
    |m.value - (m.shortest tie).value| ≤ |m.value - d.value| := by
  have hle : d.length ≤ 17 := by
    rw [hlength]
    exact length_shortest_le_of_neighbour hm (by decide) le_rfl
      (exists_neighbour_of_length_17 hm tie)
  obtain ⟨b, hb, hback, -⟩ := exists_neighbour_of_readsBack hm h tie
  obtain ⟨k, c, hk, hkl, hc, hshortest⟩ := exists_shortest_eq d.length_pos hle ⟨b, hb, hback⟩
  have hlk := length_le_of_decimalOfLength? hm hk (hkl.trans hle) hc
  rw [← hshortest, ← hlength] at hlk
  obtain rfl : k = d.length := Nat.le_antisymm hkl hlk
  rw [hshortest, Decimal.value_withoutZeros]
  exact abs_le_of_decimalOfLength? hm hc h

end Trial

end Magnitude

end ParameterTemplates
