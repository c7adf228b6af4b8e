import ParameterTemplates.Proofs.ShortestDecimal

/-! Numbers as they are displayed. What is displayed of a finite double is a numeral that is read as
the double again, but that the sign of zero is lost. Whole numbers of magnitude below `10 ^ 15` are
written as integers, the other numbers with the shortest digits; as both give the same text, it does
not matter where the one goes over into the other. -/
namespace ParameterTemplates
open Text

namespace NumberFormat

variable {n : Nat}

theorem isDigits_zeros (k : Nat) : Numeral.IsDigits (zeros k) := by
  intro c hc
  rw [List.eq_of_mem_replicate hc]
  rfl

theorem zeros_append (j k : Nat) : zeros j ++ zeros k = zeros (j + k) :=
  List.replicate_append_replicate

theorem isDigits_append {s t : Text} (hs : Numeral.IsDigits s) (ht : Numeral.IsDigits t) :
    Numeral.IsDigits (s ++ t) := List.forall_mem_append.mpr ⟨hs, ht⟩

theorem natural_zeros (k : Nat) : Numeral.natural (zeros k) = 0 := by
  rw [Numeral.natural, zeros, Nat.ofDigitChars_replicate_zero, Nat.mul_zero]

theorem natural_append_zeros (n k : Nat) :
    Numeral.natural (digits n ++ zeros k) = n * 10 ^ k := by
  rw [Numeral.natural_append, natural_digits, natural_zeros, zeros, List.length_replicate,
    Nat.add_zero, Nat.mul_comm]

theorem natural_zeros_append (n k : Nat) : Numeral.natural (zeros k ++ digits n) = n := by
  rw [Numeral.natural_append, natural_digits, natural_zeros, Nat.mul_zero, Nat.zero_add]

/-- Multiplying by a power of ten puts zeros behind the digits. -/
theorem digits_mul_ten_pow (hn : n ≠ 0) (k : Nat) : digits (n * 10 ^ k) = digits n ++ zeros k := by
  induction k with
  | zero => simp [zeros]
  | succ k ih =>
    have hpos : 0 < n * 10 ^ k := Nat.mul_pos (Nat.pos_of_ne_zero hn) (Nat.pow_pos (by decide))
    have hsplit : n * 10 ^ (k + 1) = n * 10 ^ k * 10 := by rw [pow_succ, mul_assoc]
    rw [hsplit, digits_of_ten_le (by omega), Nat.mul_div_cancel _ (by decide), Nat.mul_mod_left, ih,
      List.append_assoc, zeros, zeros, List.replicate_succ']
    rfl

section Positional

variable {f : NumberFormat} {d : Decimal} {negative : Bool} {s : Text}

/-- Digits on both sides of a point are a numeral, and the point counts down the exponent. -/
theorem exists_written_point {whole fraction : Text} (hs : Numeral.IsSign negative s)
    (hwhole : Numeral.IsDigits whole) (hne : whole ≠ []) (hfraction : Numeral.IsDigits fraction) :
    ∃ n : Numeral, n.negative = negative ∧ n.Written (s ++ (whole ++ '.' :: fraction)) ∧
      n.magnitude = Decimal.value ⟨Numeral.natural (whole ++ fraction), -fraction.length⟩ := by
  have hwritten := Numeral.Written.mk hs hwhole (.point hfraction) (.inl hne) .none
  rw [List.append_nil] at hwritten
  refine ⟨_, rfl, hwritten, ?_⟩
  rw [← Numeral.coefficient_mul_eq_magnitude, Numeral.scale, Option.getD_none, zero_sub]
  rfl

theorem exists_written_whole {whole : Text} (hs : Numeral.IsSign negative s)
    (hwhole : Numeral.IsDigits whole) (hne : whole ≠ []) :
    ∃ n : Numeral, n.negative = negative ∧ n.Written (s ++ whole) ∧
      n.magnitude = Decimal.value ⟨Numeral.natural whole, 0⟩ := by
  have hwritten := Numeral.Written.mk hs hwhole .none (.inl hne) .none
  rw [List.append_nil, List.append_nil] at hwritten
  refine ⟨_, rfl, hwritten, ?_⟩
  rw [← Numeral.coefficient_mul_eq_magnitude, Numeral.coefficient, List.append_nil]
  rfl

/-- The zeros of a whole number are written behind its digits. -/
theorem exists_written_writePositional_whole (f : NumberFormat) (n k : Nat)
    (hs : Numeral.IsSign negative s) :
    ∃ m : Numeral, m.negative = negative ∧ m.Written (s ++ f.writePositional ⟨n, k⟩) ∧
      m.magnitude = Decimal.value ⟨n, k⟩ := by
  have hwhole := isDigits_append (isDigits_digits n) (isDigits_zeros k)
  have hne : digits n ++ zeros k ≠ [] := by simp [digits_ne_nil]
  simp only [writePositional, if_pos (Int.natCast_nonneg k), Int.toNat_natCast]
  cases f.keepsPoint with
  | true =>
    have h := exists_written_point hs hwhole hne (isDigits_zeros 1)
    rw [List.append_assoc (digits n) (zeros k) (zeros 1), zeros_append, natural_append_zeros,
      Decimal.value_zeros] at h
    simpa [zeros] using h
  | false =>
    have h := exists_written_whole hs hwhole hne
    rw [natural_append_zeros, Decimal.value_zeros] at h
    simpa using h

/-- The places of a fraction are the last digits, with zeros before them if there are too few. -/
theorem exists_written_writePositional_fraction (f : NumberFormat) (n p : Nat) (hp : 0 < p)
    (hs : Numeral.IsSign negative s) :
    ∃ m : Numeral, m.negative = negative ∧ m.Written (s ++ f.writePositional ⟨n, -p⟩) ∧
      m.magnitude = Decimal.value ⟨n, -p⟩ := by
  have hdigits := isDigits_digits n
  have hexponent : ¬ (0 : Int) ≤ -p := by omega
  simp only [writePositional, if_neg hexponent, neg_neg, Int.toNat_natCast]
  split
  · next hlt =>
    have hwhole : (digits n).take ((digits n).length - p) ≠ [] := by
      rw [Ne, List.take_eq_nil_iff, not_or]
      exact ⟨by omega, digits_ne_nil n⟩
    have hfraction : Numeral.IsDigits ((digits n).drop ((digits n).length - p)) :=
      fun c hc => hdigits c (List.mem_of_mem_drop hc)
    have h := exists_written_point hs (fun c hc => hdigits c (List.mem_of_mem_take hc)) hwhole
      hfraction
    rw [List.take_append_drop, natural_digits, List.length_drop, Nat.sub_sub_self hlt.le] at h
    simpa using h
  · next hge =>
    have hlength : (zeros (p - (digits n).length) ++ digits n).length = p := by
      rw [List.length_append, zeros, List.length_replicate]
      omega
    have h := exists_written_point hs (isDigits_zeros 1) (by simp [zeros])
      (isDigits_append (isDigits_zeros (p - (digits n).length)) hdigits)
    rw [← List.append_assoc (zeros 1), zeros_append, natural_zeros_append, hlength] at h
    simpa [zeros] using h

/-- Without an exponent a decimal is written as a numeral of its value. -/
theorem exists_written_writePositional (f : NumberFormat) (d : Decimal)
    (hs : Numeral.IsSign negative s) :
    ∃ n : Numeral, n.negative = negative ∧ n.Written (s ++ f.writePositional d) ∧
      n.magnitude = d.value := by
  obtain ⟨n, e⟩ := d
  rcases lt_or_ge e 0 with he | he
  · obtain ⟨p, rfl⟩ : ∃ p : Nat, e = -p := ⟨(-e).toNat, by omega⟩
    exact exists_written_writePositional_fraction f n p (by omega) hs
  · obtain ⟨k, rfl⟩ := Int.eq_ofNat_of_zero_le he
    exact exists_written_writePositional_whole f n k hs

end Positional

end NumberFormat

open NumberFormat

section Plain

variable {d : Decimal} {m : Magnitude} {negative : Bool} {s : Text}

theorem writeDecimal_of_ne_zero (hd : d.digits ≠ 0) :
    plainNumber.writeDecimal d = plainNumber.writePositional d := by
  rw [writeDecimal, if_neg hd]
  rfl

/-- The plain layout writes a numeral of the value of any decimal. -/
theorem exists_written_writeDecimal (d : Decimal) (hs : Numeral.IsSign negative s) :
    ∃ n : Numeral, n.negative = negative ∧ n.Written (s ++ plainNumber.writeDecimal d) ∧
      n.magnitude = d.value := by
  by_cases hd : d.digits = 0
  · have hvalue : d.value = Decimal.value ⟨0, 0⟩ := by
      rw [Decimal.value, hd, Decimal.value_whole, Nat.cast_zero, zero_mul]
    rw [writeDecimal, if_pos hd, hvalue]
    exact exists_written_writePositional _ _ hs
  · rw [writeDecimal_of_ne_zero hd]
    exact exists_written_writePositional _ _ hs

/-- What a finite double is written as is a numeral that is rounded to the double. -/
theorem exists_written_write (negative : Bool) (m : Magnitude) :
    ∃ n : Numeral, n.negative = negative ∧ n.Written (plainNumber.write (.finite negative m)) ∧
      Binary64.RoundsTo negative n.magnitude (.finite negative m) := by
  have hs : Numeral.IsSign negative (if negative then ['-'] else []) := by
    cases negative
    · exact .none
    · exact .minus
  obtain ⟨n, hnegative, hwritten, hvalue⟩ :=
    exists_written_writeDecimal (if m.units = 0 then ⟨0, 0⟩ else m.shortest .up) hs
  refine ⟨n, hnegative, hwritten, ?_⟩
  rw [hvalue]
  split
  · next hzero =>
    have hm : m.value = Decimal.value ⟨0, 0⟩ := by
      rw [Magnitude.value, hzero, Decimal.value_whole, Nat.cast_zero, zero_div]
    rw [← hm]
    exact Binary64.roundsTo_value negative m
  · next hm =>
    have hback := Decimal.readsBack_iff.mp (m.readsBack_shortest hm .up)
    exact Binary64.roundsTo_finite_iff.mpr (Binary64.roundsTo_finite_iff.mp hback)

/-- A finite double other than zero is written with its shortest digits. -/
theorem write_of_ne_zero (negative : Bool) (hm : m.units ≠ 0) :
    plainNumber.write (.finite negative m) =
      (if negative then ['-'] else []) ++ plainNumber.writePositional (m.shortest .up) := by
  have hd := Decimal.digits_ne_zero_of_readsBack (m.readsBack_shortest hm .up) hm
  rw [write, if_neg hm, ← writeDecimal_of_ne_zero hd]
  rfl

/-- A finite double is read back from what it is written as. -/
theorem read_write (negative : Bool) (m : Magnitude) :
    Literal.read .number (plainNumber.write (.finite negative m)) =
      .ok (.number (.finite negative m)) := by
  obtain ⟨n, rfl, hwritten, hrounds⟩ := exists_written_write negative m
  rw [← hwritten.trim_eq] at hwritten
  exact Literal.read_number_eq_ok_iff.mpr ⟨n, _, hwritten, hrounds, rfl, rfl⟩

end Plain

section Integers

variable {n : Nat} {m : Magnitude} {tie : Tie}

theorem leadingExponent_of_units (hn : n ≠ 0) (hm : m.units = n * unitsPerOne) :
    m.leadingExponent = (digits n).length - 1 := by
  rw [Magnitude.leadingExponent_eq, hm]
  generalize 400 = k
  rw [Nat.mul_right_comm, Nat.mul_div_cancel _ unitsPerOne_pos, digits_mul_ten_pow hn,
    List.length_append, zeros, List.length_replicate]
  push_cast
  ring

/-- Of the multiples of ten only the integer itself is rounded to an integer of no more than 53
bits: beyond `2 ^ 53` the next integer is none, and the one after it is not rounded. -/
theorem eq_of_roundsTo_of_units {a : Nat} (h : n ≤ 2 ^ 53) (hm : m.units = n * unitsPerOne)
    (ha : 10 ∣ a) (hrounds : Binary64.RoundsTo false a (.finite false m)) : a = n := by
  have hunits := Binary64.roundsTo_finite_iff.mp hrounds
  rw [hm, ← Nat.cast_mul] at hunits
  rcases Nat.lt_or_ge (2 ^ 53) a with hbeyond | hbelow
  · have hle := (isNearestEven_self onGrid_next_mul_unitsPerOne).mono hunits
      (by exact_mod_cast Nat.mul_le_mul_right unitsPerOne (by omega))
    have := Nat.le_of_mul_le_mul_right hle unitsPerOne_pos
    omega
  · have hself := isNearestEven_self (onGrid_mul_unitsPerOne hbelow)
    exact Nat.eq_of_mul_eq_mul_right unitsPerOne_pos (hself.unique hunits)

theorem readsBack_of_units (hm : m.units = n * unitsPerOne) : Decimal.ReadsBack m ⟨n, 0⟩ := by
  have hrounds := Binary64.roundsTo_value false m
  rw [Magnitude.value_of_units hm, ← Decimal.value_whole] at hrounds
  exact Decimal.readsBack_iff.mpr hrounds

/-- A decimal with whole steps that the trial finds for an integer is the integer: with steps of one
it is the nearest, and with greater steps it is a multiple of ten. -/
theorem eq_of_decimalOfLength? (h : n ≤ 2 ^ 53) (hn : n ≠ 0) (hm : m.units = n * unitsPerOne)
    {length p : Nat} {d : Decimal} (hp : length + p = (digits n).length)
    (hd : m.decimalOfLength? tie length = some d) : d.exponent = p ∧ n = d.digits * 10 ^ p := by
  obtain ⟨hmem, hback, -⟩ := Magnitude.decimalOfLength?_spec hd
  have hexponent : d.exponent = p := by
    have hplaces : m.leadingExponent - length + 1 = p := by
      rw [leadingExponent_of_units hn hm]
      omega
    rw [← hplaces]
    rcases Magnitude.mem_neighbours_iff.mp hmem with rfl | rfl <;> rfl
  have hvalue : d.value = (d.digits * 10 ^ p : Nat) := by
    rw [Decimal.value, hexponent, zpow_natCast]
    push_cast
    rfl
  refine ⟨hexponent, ?_⟩
  rcases Nat.eq_zero_or_pos p with rfl | hpos
  · have hne : m.units ≠ 0 := mt (Magnitude.units_eq_zero_iff hm).mp hn
    obtain rfl : length = (digits n).length := hp
    have hnear := Magnitude.abs_le_of_decimalOfLength? (d := ⟨n, 0⟩) hne hd (readsBack_of_units hm)
    rw [Magnitude.value_of_units hm, Decimal.value_whole, sub_self, abs_zero] at hnear
    have heq := sub_eq_zero.mp (abs_nonpos_iff.mp hnear)
    rw [hvalue] at heq
    exact_mod_cast heq
  · have hrounds := Decimal.readsBack_iff.mp hback
    rw [hvalue] at hrounds
    have hten : 10 ∣ d.digits * 10 ^ p := (dvd_pow_self 10 hpos.ne').mul_left _
    exact (eq_of_roundsTo_of_units h hm hten hrounds).symm

/-- What the trial finds for an integer is the integer without zeros at its end. -/
theorem exists_shortest_of_units (h : n ≤ 2 ^ 53) (hn : n ≠ 0) (hm : m.units = n * unitsPerOne)
    (tie : Tie) : ∃ c k : Nat, m.shortest tie = ⟨c, k⟩ ∧ n = c * 10 ^ k := by
  have hne : m.units ≠ 0 := mt (Magnitude.units_eq_zero_iff hm).mp hn
  have hpos : 0 < (digits n).length := Nat.length_toDigits_pos
  have hle : (digits n).length ≤ 17 :=
    (Nat.length_toDigits_le_iff (by decide) (by decide)).mpr (by omega)
  obtain ⟨c, hc, hback, -⟩ :=
    Magnitude.exists_neighbour_of_readsBack hne (readsBack_of_units hm) tie
  obtain ⟨j, d, hj, hjl, hd, hshortest⟩ := Magnitude.exists_shortest_eq hpos hle ⟨c, hc, hback⟩
  obtain ⟨hexponent, hvalue⟩ :=
    eq_of_decimalOfLength? h hn hm (Nat.add_sub_cancel' hjl) hd
  obtain ⟨k, hdigits, hzeros⟩ := Decimal.exists_withoutZeros 1100 d
  rw [← hshortest] at hdigits hzeros
  generalize m.shortest tie = shortest at hdigits hzeros ⊢
  obtain ⟨c, e⟩ := shortest
  refine ⟨c, (digits n).length - j + k, ?_, ?_⟩
  · rw [Nat.cast_add, ← hexponent, ← hzeros]
  · rw [Nat.add_comm, pow_add, ← mul_assoc, ← hdigits]
    exact hvalue

theorem writeDecimal_of_units (h : n ≤ 2 ^ 53) (hm : m.units = n * unitsPerOne) :
    plainNumber.writeDecimal (if m.units = 0 then ⟨0, 0⟩ else m.shortest plainNumber.tie) =
      digits n := by
  simp only [Magnitude.units_eq_zero_iff hm]
  split
  · next hzero =>
    rw [hzero]
    rfl
  · next hn =>
    obtain ⟨c, k, hshortest, hvalue⟩ := exists_shortest_of_units h hn hm plainNumber.tie
    have hc : c ≠ 0 := by
      rintro rfl
      rw [hvalue, Nat.zero_mul] at hn
      exact hn rfl
    rw [hshortest, writeDecimal_of_ne_zero hc, hvalue, digits_mul_ten_pow hc, writePositional,
      if_pos (Int.natCast_nonneg k)]
    simp [plainNumber]

/-- An integer of no more than 53 bits is written as its numeral. -/
theorem write_ofInt {n : Int} (h : n.natAbs ≤ 2 ^ 53) :
    plainNumber.write (.ofInt n) = integer n := by
  obtain ⟨m, hm⟩ := exists_magnitude h
  rw [Binary64.ofInt_eq_finite hm, write, writeDecimal_of_units h hm, integer]
  simp only [decide_eq_true_eq]

end Integers

section Display

variable {n : Int} {x : Binary64}

/-- The small whole numbers, each under either sign. -/
theorem smallInteger?_eq_some_iff : Scalar.smallInteger? x = some n ↔
    ∃ negative m, ∃ k : Nat, x = .finite negative m ∧ m.units = k * unitsPerOne ∧ k < 10 ^ 15 ∧
      n = if negative then -(k : Int) else k := by
  have hpower : Nat.pow 10 15 = 10 ^ 15 := rfl
  constructor
  · intro hsmall
    cases x with
    | nan | infinity => cases hsmall
    | finite negative m =>
      simp only [Scalar.smallInteger?, hpower, Option.ite_none_right_eq_some,
        Option.some.injEq] at hsmall
      obtain ⟨⟨hwhole, hlt⟩, rfl⟩ := hsmall
      have hunits := (Nat.div_mul_cancel (Nat.dvd_of_mod_eq_zero hwhole)).symm
      exact ⟨negative, m, _, rfl, hunits, (Nat.div_lt_iff_lt_mul unitsPerOne_pos).mpr hlt, rfl⟩
  · rintro ⟨negative, m, k, rfl, hm, hk, rfl⟩
    have hlt : k * unitsPerOne < 10 ^ 15 * unitsPerOne :=
      Nat.mul_lt_mul_of_pos_right hk unitsPerOne_pos
    rw [Scalar.smallInteger?, hpower, hm, if_pos ⟨Nat.mul_mod_left _ _, hlt⟩,
      Nat.mul_div_cancel _ unitsPerOne_pos]

/-- Every integer of magnitude below `10 ^ 15` is one of them. -/
theorem smallInteger?_ofInt (h : n.natAbs < 10 ^ 15) :
    Scalar.smallInteger? (.ofInt n) = some n := by
  obtain ⟨m, hm⟩ := exists_magnitude (h.le.trans (by decide))
  refine smallInteger?_eq_some_iff.mpr ⟨_, m, _, Binary64.ofInt_eq_finite hm, hm, h, ?_⟩
  simp only [decide_eq_true_eq]
  split <;> omega

theorem smallInteger?_zero (negative : Bool) : Scalar.smallInteger? (.zero negative) = some 0 := by
  refine smallInteger?_eq_some_iff.mpr ⟨negative, _, 0, rfl, (Nat.zero_mul _).symm, by decide, ?_⟩
  cases negative <;> rfl

theorem finite_eq_zero {negative : Bool} {m : Magnitude} (hm : m.units = 0) :
    Binary64.finite negative m = .zero negative :=
  congrArg (Binary64.finite negative) (Magnitude.eq_of_units_eq hm)

theorem ofInt_zero : Binary64.ofInt 0 = .zero false := by
  have hle : Int.natAbs 0 ≤ 2 ^ 53 := Nat.zero_le _
  obtain ⟨m, hm⟩ := exists_magnitude hle
  rw [Binary64.ofInt_eq_finite hm]
  exact finite_eq_zero ((Magnitude.units_eq_zero_iff hm).mpr Int.natAbs_zero)

/-- Both ways of displaying a number give the same text, unless the number is the negative zero. -/
theorem display_eq_write (hx : x ≠ .zero true) :
    (Scalar.number x).display = plainNumber.write x := by
  rw [Scalar.display, Scalar.displayNumber]
  split
  · next n hn =>
    obtain ⟨negative, m, k, rfl, hm, hk, rfl⟩ := smallInteger?_eq_some_iff.mp hn
    rw [write, writeDecimal_of_units (by omega) hm]
    cases negative with
    | false => simp [integer]
    | true =>
      have hpos : 0 < k := Nat.pos_of_ne_zero fun hzero =>
        hx (finite_eq_zero ((Magnitude.units_eq_zero_iff hm).mpr hzero))
      simp [integer, hpos]
  · rfl

theorem ofInt_ne_zero_true (h : n.natAbs ≤ 2 ^ 53) : Binary64.ofInt n ≠ .zero true := by
  obtain ⟨m, hm⟩ := exists_magnitude h
  rw [Binary64.ofInt_eq_finite hm, Binary64.zero]
  intro heq
  obtain ⟨hsign, rfl⟩ := Binary64.finite.inj heq
  have hneg := of_decide_eq_true hsign
  have hzero := (Magnitude.units_eq_zero_iff hm).mp rfl
  omega

/-- An integer of no more than 53 bits is displayed as its numeral. -/
theorem display_ofInt (h : n.natAbs ≤ 2 ^ 53) : (Scalar.number (.ofInt n)).display = integer n := by
  rw [display_eq_write (ofInt_ne_zero_true h), write_ofInt h]

/-- Whatever a finite double is displayed as is read as the double, or as zero. -/
theorem read_display (hx : x.isFinite = true) : Literal.read .number (Scalar.number x).display =
    .ok (.number (if x = .zero true then .zero false else x)) := by
  split
  · next hzero =>
    rw [hzero, Scalar.display, Scalar.displayNumber, smallInteger?_zero, ← ofInt_zero]
    exact Literal.read_integer (Binary64.isFinite_ofInt (Nat.zero_le _))
  · next hne =>
    rw [display_eq_write hne]
    cases x with
    | nan | infinity => cases hx
    | finite negative m => exact read_write negative m

end Display

/-- Nothing is lost when a number is displayed and read again, but for the sign of zero. A finite
double is read back from what it is displayed as. A small whole number, such as every integer of
magnitude below `10 ^ 15`, is displayed as an integer, and unless it is the negative zero its
shortest digits would be the same text; so an integer of no more than 53 bits is displayed as its
numeral, whichever way is taken. The digits that a double is written with read back to it, no fewer
digits do, and of as many none are nearer. -/
theorem displayed_numbers_read_back :
    (∀ x : Binary64, x.isFinite = true → Literal.read .number (Scalar.number x).display =
      .ok (.number (if x = .zero true then .zero false else x))) ∧
    (∀ n : Int, n.natAbs < 10 ^ 15 → Scalar.smallInteger? (.ofInt n) = some n) ∧
    (∀ x n, Scalar.smallInteger? x = some n → (Scalar.number x).display = integer n ∧
      (x ≠ .zero true → integer n = plainNumber.write x)) ∧
    (∀ n : Int, n.natAbs ≤ 2 ^ 53 → (Scalar.number (.ofInt n)).display = integer n) ∧
    ∀ negative (m : Magnitude), m.units ≠ 0 → ∃ d : Decimal,
      plainNumber.write (.finite negative m) =
        (if negative then ['-'] else []) ++ plainNumber.writePositional d ∧
      d.toBinary64 = .finite false m ∧
      ∀ c : Decimal, c.toBinary64 = .finite false m → d.length ≤ c.length ∧
        (c.length = d.length → |m.value - d.value| ≤ |m.value - c.value|) := by
  refine ⟨?_, ?_, ?_, ?_, ?_⟩
  · intro x hx
    exact read_display hx
  · intro n h
    exact smallInteger?_ofInt h
  · intro x n hn
    have hdisplay : (Scalar.number x).display = integer n := by
      rw [Scalar.display, Scalar.displayNumber, hn]
    exact ⟨hdisplay, fun hx => hdisplay.symm.trans (display_eq_write hx)⟩
  · intro n h
    exact display_ofInt h
  · intro negative m hm
    refine ⟨m.shortest .up, write_of_ne_zero negative hm, m.readsBack_shortest hm .up, ?_⟩
    intro c hc
    exact ⟨m.length_shortest_le hm hc .up, m.abs_shortest_le hm hc⟩

/-- The least double, both zeros, and integers on both sides of the switch. -/
theorem displayed_numbers_read_back_limits :
    let least : Magnitude := ⟨1, by decide +kernel, by decide +kernel⟩
    Literal.read .number (Scalar.number (.finite true least)).display =
        .ok (.number (.finite true least)) ∧
      Literal.read .number (Scalar.number (.zero true)).display = .ok (.number (.zero false)) ∧
      plainNumber.write (.ofInt (-999999999999999)) = "-999999999999999".toList ∧
      (Scalar.number (.ofInt 1000000000000000)).display = "1000000000000000".toList ∧
      ∃ d : Decimal, plainNumber.write (.finite true least) =
        ['-'] ++ plainNumber.writePositional d ∧ d.length ≤ 1 := by
  intro least
  obtain ⟨hread, hsmall, hfast, hinteger, hshortest⟩ := displayed_numbers_read_back
  have hback : Decimal.toBinary64 ⟨5, -324⟩ = .finite false least := by decide +kernel
  refine ⟨?_, hread _ rfl, ?_, hinteger _ (by decide), ?_⟩
  · exact hread (.finite true least) rfl
  · have hdisplay := hfast _ _ (hsmall (-999999999999999) (by decide))
    exact (hdisplay.2 (ofInt_ne_zero_true (by decide))).symm
  · obtain ⟨d, hwrite, -, hleast⟩ := hshortest true least (by decide)
    exact ⟨d, hwrite, (hleast ⟨5, -324⟩ hback).1⟩

end ParameterTemplates
