import Mathlib.Algebra.Order.Ring.Unbundled.Rat
import Mathlib.Data.Nat.Cast.Order.Field
import Mathlib.Tactic.FieldSimp
import Mathlib.Tactic.Linarith
import Mathlib.Tactic.NormNum
import Mathlib.Tactic.Positivity
import Mathlib.Tactic.Ring
import ParameterTemplates.Number.Binary64

/-! Rounding to doubles, said without the functions that round: a magnitude goes to the nearest count
of units with 53 leading bits, of two that are equally near to the one whose last bit is zero, and
from half a step below the limit on it becomes infinite. That determines the double, and it is the
one that a decimal is read as. -/
namespace ParameterTemplates

section Grid

variable {m n k : Nat}

/-- A count of units with 53 leading bits and none after them, whatever its size. -/
def OnGrid (units : Nat) : Prop := ∃ m k, m < 2 ^ 53 ∧ units = m * 2 ^ k

/-- A count on the grid whose last leading bit is zero. -/
def LastBitZero (units : Nat) : Prop := ∃ m k, m < 2 ^ 52 ∧ units = m * 2 ^ (k + 1)

theorem spacing_pos (n : Nat) : 0 < spacing n := Nat.two_pow_pos _

theorem log2_le_log2 (h : m ≤ n) : m.log2 ≤ n.log2 := by
  by_cases hm : m = 0
  · simp [hm]
  · exact (Nat.le_log2 (by omega)).mpr ((Nat.log2_self_le hm).trans h)

theorem spacing_dvd_spacing (h : m ≤ n) : spacing m ∣ spacing n :=
  Nat.pow_dvd_pow 2 (Nat.sub_le_sub_right (log2_le_log2 h) 52)

theorem div_spacing_lt (n : Nat) : n / spacing n < 2 ^ 53 := by
  rw [Nat.div_lt_iff_lt_mul (spacing_pos n), spacing, Nat.pow_eq, ← Nat.pow_add]
  exact Nat.lt_log2_self.trans_le (Nat.pow_le_pow_right (by decide) (by omega))

theorem spacing_mul_dvd (hm : m < 2 ^ 53) (k : Nat) : spacing (m * 2 ^ k) ∣ 2 ^ k := by
  rcases Nat.eq_zero_or_pos m with rfl | hpos
  · simp [spacing]
  have hlog : (m * 2 ^ k).log2 < 53 + k := by
    rw [Nat.log2_lt (by positivity), Nat.pow_add]
    exact Nat.mul_lt_mul_of_pos_right hm (Nat.two_pow_pos k)
  exact Nat.pow_dvd_pow 2 (by omega)

theorem onGrid_iff : OnGrid n ↔ spacing n ∣ n := by
  constructor
  · rintro ⟨m, k, hm, rfl⟩
    exact (spacing_mul_dvd hm k).mul_left m
  · intro h
    exact ⟨n / spacing n, n.log2 - 52, div_spacing_lt n, (Nat.div_mul_cancel h).symm⟩

theorem LastBitZero.dvd (h : LastBitZero n) : 2 * spacing n ∣ n := by
  obtain ⟨m, k, hm, rfl⟩ := h
  have hsplit : m * 2 ^ (k + 1) = 2 * m * 2 ^ k := by rw [Nat.pow_succ']; ac_rfl
  have hspacing : spacing (2 * m * 2 ^ k) ∣ 2 ^ k := spacing_mul_dvd (by omega) k
  rw [hsplit]
  exact Nat.mul_dvd_mul (Nat.dvd_mul_right 2 m) hspacing

theorem onGrid_mul (hm : m ≤ 2 ^ 53) (k : Nat) : OnGrid (m * 2 ^ k) := by
  rcases Nat.lt_or_eq_of_le hm with hm | rfl
  · exact ⟨m, k, hm, rfl⟩
  · exact ⟨2 ^ 52, k + 1, by decide, by rw [Nat.pow_succ' (n := k)]; omega⟩

theorem lastBitZero_mul (hm : m ≤ 2 ^ 53) (heven : 2 ∣ m) (k : Nat) : LastBitZero (m * 2 ^ k) := by
  obtain ⟨j, rfl⟩ := heven
  rcases Nat.lt_or_eq_of_le hm with hm | hm
  · exact ⟨j, k, by omega, by rw [Nat.pow_succ']; ac_rfl⟩
  · exact ⟨2 ^ 51, k + 1, by decide, by rw [hm, Nat.pow_succ', Nat.pow_succ']; omega⟩

/-- Between a count and the next one on the grid lies nothing else of it. -/
theorem OnGrid.add_spacing_le (hm : OnGrid m) (hn : OnGrid n) (h : m < n) : m + spacing m ≤ n := by
  have hdvd : spacing m ∣ n - m :=
    Nat.dvd_sub ((spacing_dvd_spacing h.le).trans (onGrid_iff.mp hn)) (onGrid_iff.mp hm)
  have := Nat.le_of_dvd (by omega) hdvd
  omega

theorem OnGrid.add_spacing (h : OnGrid n) : OnGrid (n + spacing n) := by
  have heq : n + spacing n = (n / spacing n + 1) * spacing n := by
    rw [Nat.add_mul, Nat.one_mul, Nat.div_mul_cancel (onGrid_iff.mp h)]
  rw [heq]
  exact onGrid_mul (div_spacing_lt n) _

/-- Of two neighbours on the grid one has a last bit that is not zero. -/
theorem LastBitZero.not_next (h : LastBitZero n) : ¬ LastBitZero (n + spacing n) := by
  intro hnext
  have htwice : 2 * spacing n ∣ n + spacing n :=
    (Nat.mul_dvd_mul_left 2 (spacing_dvd_spacing (Nat.le_add_right _ _))).trans hnext.dvd
  have hdvd : 2 * spacing n ∣ spacing n := (Nat.dvd_add_right h.dvd).mp htwice
  have := Nat.le_of_dvd (spacing_pos n) hdvd
  have := spacing_pos n
  omega

/-- Without the bits that the spacing leaves no room for, a count keeps its spacing. -/
theorem spacing_truncated (n : Nat) : spacing (n / spacing n * spacing n) = spacing n := by
  refine Nat.dvd_antisymm (spacing_dvd_spacing (Nat.div_mul_le_self ..)) ?_
  rcases Nat.eq_zero_or_pos n with rfl | hn
  · simp
  by_cases hlog : n.log2 ≤ 52
  · have hone : spacing n = 1 := by simp [spacing, Nat.sub_eq_zero_of_le hlog]
    rw [hone]
    exact Nat.one_dvd _
  have hsplit : 2 ^ n.log2 = 2 ^ 52 * spacing n := by
    rw [spacing, Nat.pow_eq, ← Nat.pow_add]
    congr 1
    omega
  have hlead : 2 ^ n.log2 ≤ n / spacing n * spacing n := by
    rw [hsplit]
    refine Nat.mul_le_mul_right _ ((Nat.le_div_iff_mul_le (spacing_pos n)).mpr ?_)
    rw [← hsplit]
    exact Nat.log2_self_le (by omega)
  have := spacing_dvd_spacing hlead
  rwa [spacing, Nat.log2_two_pow] at this

end Grid

/-- The count on the grid that is nearest to a number of units. Of two that are equally near it is
the one whose last bit is zero. -/
structure IsNearestEven (q : ℚ) (units : Nat) : Prop where
  onGrid : OnGrid units
  nearest : ∀ other, OnGrid other → |q - units| ≤ |q - other|
  tie : ∀ other, OnGrid other → |q - other| = |q - units| → other = units ∨ LastBitZero units

namespace IsNearestEven

variable {q : ℚ} {m n k : Nat}

/-- Two nearest counts would be neighbours, for what lies between them would be nearer; and then one
of them has a last bit that is not zero. -/
theorem le_of_nearest (hm : IsNearestEven q m) (hn : IsNearestEven q n) : n ≤ m := by
  by_contra h
  have h := Nat.lt_of_not_le h
  have heq : |q - n| = |q - m| := le_antisymm (hn.nearest m hm.onGrid) (hm.nearest n hn.onGrid)
  have hlast := (hm.tie n hn.onGrid heq).resolve_left (by omega)
  have hlast' := (hn.tie m hm.onGrid heq.symm).resolve_left (by omega)
  rcases Nat.lt_or_eq_of_le (hm.onGrid.add_spacing_le hn.onGrid h) with hlt | hnext
  · have hpos : m < m + spacing m := Nat.lt_add_of_pos_right (spacing_pos m)
    have hnear := hm.nearest _ hm.onGrid.add_spacing
    generalize m + spacing m = b at hlt hpos hnear
    have hmb : (m : ℚ) < b := by exact_mod_cast hpos
    have hbn : (b : ℚ) < n := by exact_mod_cast hlt
    rcases abs_cases (q - m) with ha | ha <;> rcases abs_cases (q - n) with hb | hb <;>
      rcases abs_cases (q - b) with hc | hc <;> linarith
  · exact hlast.not_next (hnext ▸ hlast')

theorem unique (hm : IsNearestEven q m) (hn : IsNearestEven q n) : m = n :=
  Nat.le_antisymm (hn.le_of_nearest hm) (hm.le_of_nearest hn)

theorem of_forall_lt (hn : OnGrid n)
    (h : ∀ other, OnGrid other → other ≠ n → |q - n| < |q - other|) : IsNearestEven q n := by
  refine ⟨hn, fun other hother => ?_, fun other hother heq => ?_⟩
  · by_cases hne : other = n
    · rw [hne]
    · exact (h other hother hne).le
  · by_contra hne
    exact absurd heq (h other hother fun h => hne (.inl h)).ne'

theorem le_of_lt_half (h : IsNearestEven q n) (hm : OnGrid m) (hq : q < m + spacing m / 2) :
    n ≤ m := by
  by_contra hlt
  have hnext := hm.add_spacing_le h.onGrid (Nat.lt_of_not_le hlt)
  have hnext : (m : ℚ) + spacing m ≤ n := by exact_mod_cast hnext
  have hpos : (0 : ℚ) < spacing m := by exact_mod_cast spacing_pos m
  have hnear := h.nearest m hm
  rw [abs_of_neg (by linarith)] at hnear
  rcases abs_cases (q - m) with ha | ha <;> linarith

theorem lt_of_half_le (h : IsNearestEven q n) (hm : OnGrid m) (hlast : ¬ LastBitZero m)
    (hq : m + spacing m / 2 ≤ q) : m < n := by
  by_contra hle
  have hle : (n : ℚ) ≤ m := by exact_mod_cast Nat.le_of_not_lt hle
  have hpos : (0 : ℚ) < spacing m := by exact_mod_cast spacing_pos m
  have hnear := h.nearest _ hm.add_spacing
  push_cast at hnear
  rw [abs_of_nonneg (by linarith)] at hnear
  -- the next count is no farther than this one only in the middle, and then this one is the nearest
  have heq : |q - (m + spacing m)| = q - n := by
    rcases abs_cases (q - (m + spacing m)) with ha | ha <;> linarith
  have hmn : n = m := by
    have : (n : ℚ) = m := by rcases abs_cases (q - (m + spacing m)) with ha | ha <;> linarith
    exact_mod_cast this
  subst hmn
  have htie := h.tie _ hm.add_spacing
  push_cast at htie
  rw [heq, abs_of_nonneg (by linarith)] at htie
  have := spacing_pos n
  exact hlast ((htie rfl).resolve_left (by omega))

end IsNearestEven

section Halves

variable {q : ℚ} {m n k : Nat}

theorem isNearestEven_of_lt_half (hn : OnGrid n) (h : n ≤ q) (h' : q < n + spacing n / 2) :
    IsNearestEven q n := by
  refine .of_forall_lt hn fun other hother hne => ?_
  rw [abs_of_nonneg (by linarith)]
  rcases Nat.lt_or_gt_of_ne hne with hlt | hgt
  · have : (other : ℚ) < n := by exact_mod_cast hlt
    rw [abs_of_nonneg (by linarith)]
    linarith
  · have : (n : ℚ) + spacing n ≤ other := by exact_mod_cast hn.add_spacing_le hother hgt
    rw [abs_of_neg (by linarith)]
    linarith

theorem isNearestEven_of_half_lt (hn : OnGrid n) (h : n + spacing n / 2 < q)
    (h' : q ≤ n + spacing n) : IsNearestEven q (n + spacing n) := by
  refine .of_forall_lt hn.add_spacing fun other hother hne => ?_
  push_cast
  rw [abs_of_nonpos (by linarith)]
  rcases Nat.lt_or_ge n other with hlt | hge
  · have hnext := hn.add_spacing_le hother hlt
    have : (n : ℚ) + spacing n < other := by exact_mod_cast (by omega : n + spacing n < other)
    rw [abs_of_neg (by linarith)]
    linarith
  · have : (other : ℚ) ≤ n := by exact_mod_cast hge
    have hpos : (0 : ℚ) < spacing n := by exact_mod_cast spacing_pos n
    rw [abs_of_nonneg (by linarith)]
    linarith

theorem isNearestEven_of_half (hn : OnGrid n) (h : q = n + spacing n / 2)
    (hm : m = n ∨ m = n + spacing n) (hlast : LastBitZero m) : IsNearestEven q m := by
  have hpos : (0 : ℚ) < spacing n := by exact_mod_cast spacing_pos n
  have hgrid : OnGrid m := by
    rcases hm with rfl | rfl
    · exact hn
    · exact hn.add_spacing
  have hdist : |q - m| = spacing n / 2 := by
    rcases hm with rfl | rfl
    · rw [h, add_sub_cancel_left, abs_of_pos (by linarith)]
    · push_cast
      rw [h, abs_of_neg (by linarith)]
      ring
  refine ⟨hgrid, fun other hother => ?_, fun _ _ _ => .inr hlast⟩
  rw [hdist]
  rcases Nat.lt_or_ge n other with hlt | hge
  · have : (n : ℚ) + spacing n ≤ other := by exact_mod_cast hn.add_spacing_le hother hlt
    rw [abs_of_neg (by linarith)]
    linarith
  · have : (other : ℚ) ≤ n := by exact_mod_cast hge
    rw [abs_of_nonneg (by linarith)]
    linarith

theorem isNearestEven_self (hn : OnGrid n) : IsNearestEven n n := by
  have hpos : (0 : ℚ) < spacing n := by exact_mod_cast spacing_pos n
  exact isNearestEven_of_lt_half hn le_rfl (by linarith)

/-- Every count on the grid but the least is the next one of another. -/
theorem OnGrid.exists_previous (hn : OnGrid n) (hpos : 0 < n) :
    ∃ m, OnGrid m ∧ m + spacing m = n := by
  have hs := spacing_truncated (n - 1)
  have hgrid : OnGrid ((n - 1) / spacing (n - 1) * spacing (n - 1)) :=
    onGrid_mul (div_spacing_lt _).le _
  have hle := Nat.div_mul_le_self (n - 1) (spacing (n - 1))
  have hlt := Nat.lt_div_mul_add (spacing_pos (n - 1)) (a := n - 1)
  have hnext := hgrid.add_spacing_le hn (by omega)
  exact ⟨_, hgrid, by omega⟩

/-- Up to the count after it a count on the grid takes at most `2 ^ 53` of its steps. -/
theorem OnGrid.add_spacing_le_mul (hn : OnGrid n) : n + spacing n ≤ 2 ^ 53 * spacing n := by
  have hsplit := Nat.div_mul_cancel (onGrid_iff.mp hn)
  have hle := Nat.mul_le_mul_right (spacing n) (Nat.succ_le_of_lt (div_spacing_lt n))
  rw [Nat.succ_mul, hsplit] at hle
  exact hle

/-- What differs from a count on the grid by less than its part of `2 ^ 54` is rounded to it. -/
theorem isNearestEven_of_near (hn : OnGrid n) (hpos : 0 < n) (h : |q - n| * 2 ^ 54 < n) :
    IsNearestEven q n := by
  rcases le_total (n : ℚ) q with hle | hle
  · have hstep : (n : ℚ) + spacing n ≤ 2 ^ 53 * spacing n := by
      exact_mod_cast hn.add_spacing_le_mul
    rw [abs_of_nonneg (by linarith)] at h
    exact isNearestEven_of_lt_half hn hle (by linarith)
  · obtain ⟨m, hm, rfl⟩ := hn.exists_previous hpos
    have hstep : (m : ℚ) + spacing m ≤ 2 ^ 53 * spacing m := by
      exact_mod_cast hm.add_spacing_le_mul
    rw [abs_of_nonpos (by linarith)] at h
    push_cast at h hle
    exact isNearestEven_of_half_lt hm (by linarith) (by linarith)

/-- Rounding keeps the order. Two numbers that were rounded against it would lie beyond the middle of
the two counts, each on the side of the other. -/
theorem IsNearestEven.mono {p : ℚ} (hm : IsNearestEven p m) (hn : IsNearestEven q n) (h : p ≤ q) :
    m ≤ n := by
  by_contra hlt
  have hlt : (n : ℚ) < m := by exact_mod_cast Nat.lt_of_not_le hlt
  have hp := hm.nearest n hn.onGrid
  have hq := hn.nearest m hm.onGrid
  have heq : p = q := by
    rcases abs_cases (p - m) with ha | ha <;> rcases abs_cases (p - n) with hb | hb <;>
      rcases abs_cases (q - n) with hc | hc <;> rcases abs_cases (q - m) with hd | hd <;> linarith
  subst heq
  have := hm.unique hn
  omega

end Halves

section Limit

theorem spacing_before_two_pow (k : Nat) : spacing ((2 ^ 53 - 1) * 2 ^ k) = 2 ^ k := by
  refine Nat.dvd_antisymm (spacing_mul_dvd (by decide) k) ?_
  have hle : 2 ^ (52 + k) ≤ (2 ^ 53 - 1) * 2 ^ k := by
    rw [Nat.pow_add]
    exact Nat.mul_le_mul_right _ (by decide)
  have := spacing_dvd_spacing hle
  rwa [spacing, Nat.log2_two_pow, Nat.add_sub_cancel_left] at this

/-- A magnitude is rounded to less than a power of two exactly below the middle between this power
and the last count on the grid before it. -/
theorem IsNearestEven.lt_two_pow_iff {q : ℚ} {n : Nat} (h : IsNearestEven q n) (k : Nat) :
    n < 2 ^ 53 * 2 ^ k ↔ q < (2 ^ 53 - 1 / 2) * 2 ^ k := by
  have hgrid : OnGrid ((2 ^ 53 - 1) * 2 ^ k) := onGrid_mul (by decide) k
  have hspacing := spacing_before_two_pow k
  have hlast : ¬ LastBitZero ((2 ^ 53 - 1) * 2 ^ k) := by
    intro h
    have hdvd := h.dvd
    rw [hspacing, Nat.mul_dvd_mul_iff_right (Nat.two_pow_pos k)] at hdvd
    exact absurd hdvd (by decide)
  have hnext : (2 ^ 53 - 1) * 2 ^ k + spacing ((2 ^ 53 - 1) * 2 ^ k) = 2 ^ 53 * 2 ^ k := by
    rw [hspacing]
    omega
  have hhalf : (((2 ^ 53 - 1) * 2 ^ k : Nat) : ℚ) + spacing ((2 ^ 53 - 1) * 2 ^ k) / 2 =
      (2 ^ 53 - 1 / 2) * 2 ^ k := by
    rw [hspacing]
    push_cast
    ring
  constructor
  · intro hn
    by_contra hq
    have hlt := h.lt_of_half_le hgrid hlast (hhalf ▸ not_lt.mp hq)
    have := hgrid.add_spacing_le h.onGrid hlt
    omega
  · intro hq
    have hle := h.le_of_lt_half hgrid (hhalf ▸ hq)
    have := Nat.two_pow_pos k
    omega

end Limit

section Quotients

variable {num den : Nat}

/-- The integers that a number from one integer up to the next is rounded to. -/
inductive RoundsFrom (low : Nat) (x : ℚ) : Nat → Prop where
  | down : low ≤ x → x < low + 1 / 2 → RoundsFrom low x low
  | up : low + 1 / 2 < x → x ≤ low + 1 → RoundsFrom low x (low + 1)
  | tie {m : Nat} : x = low + 1 / 2 → m = low ∨ m = low + 1 → 2 ∣ m → RoundsFrom low x m

theorem roundsFrom_roundHalfEven (num : Nat) (hden : 0 < den) :
    RoundsFrom (num / den) (num / den) (roundHalfEven num den) := by
  have hpos : (0 : ℚ) < den := by exact_mod_cast hden
  have hsplit : (num : ℚ) = den * (num / den : Nat) + (num % den : Nat) := by
    exact_mod_cast (Nat.div_add_mod num den).symm
  have hrest : ((num % den : Nat) : ℚ) ≤ den := by exact_mod_cast (Nat.mod_lt num hden).le
  unfold roundHalfEven
  simp only
  rcases lt_trichotomy (2 * (num % den)) den with h | h | h
  · have hq : (2 * (num % den : Nat) : ℚ) < den := by exact_mod_cast h
    rw [if_pos h]
    refine .down Nat.cast_div_le ((div_lt_iff₀ hpos).mpr ?_)
    linarith
  · have hq : (2 * (num % den : Nat) : ℚ) = den := by exact_mod_cast h
    rw [if_neg h.not_lt, if_neg h.not_gt]
    refine .tie ((div_eq_iff hpos.ne').mpr ?_) ?_ ?_
    · linarith
    · omega
    · omega
  · have hq : (den : ℚ) < 2 * (num % den : Nat) := by exact_mod_cast h
    rw [if_neg h.not_gt, if_pos h]
    refine .up ((lt_div_iff₀ hpos).mpr ?_) ((div_le_iff₀ hpos).mpr ?_) <;> linarith

/-- Integers stand for the counts on the grid where these are one step apart. -/
theorem RoundsFrom.isNearestEven {low m k : Nat} {x : ℚ} (h : RoundsFrom low x m)
    (hlow : low < 2 ^ 53) (hstep : spacing (low * 2 ^ k) = 2 ^ k) :
    IsNearestEven (x * 2 ^ k) (m * 2 ^ k) := by
  have hgrid : OnGrid (low * 2 ^ k) := onGrid_mul hlow.le k
  have hnext : (low + 1) * 2 ^ k = low * 2 ^ k + spacing (low * 2 ^ k) := by
    rw [hstep, Nat.add_mul, Nat.one_mul]
  have hpos : (0 : ℚ) < 2 ^ k := by positivity
  cases h with
  | down hle hlt =>
    refine isNearestEven_of_lt_half hgrid ?_ ?_
    · push_cast
      exact mul_le_mul_of_nonneg_right hle hpos.le
    · rw [hstep]
      push_cast
      linarith [mul_lt_mul_of_pos_right hlt hpos]
  | up hlt hle =>
    rw [hnext]
    refine isNearestEven_of_half_lt hgrid ?_ ?_ <;> rw [hstep] <;> push_cast
    · linarith [mul_lt_mul_of_pos_right hlt hpos]
    · linarith [mul_le_mul_of_nonneg_right hle hpos.le]
  | tie hx hm heven =>
    refine isNearestEven_of_half hgrid ?_ ?_ (lastBitZero_mul (by omega) heven k)
    · rw [hstep, hx]
      push_cast
      ring
    · rw [← hnext]
      exact hm.imp (congrArg (· * 2 ^ k)) (congrArg (· * 2 ^ k))

/-- The count that a quotient is rounded to is the nearest one. -/
theorem isNearestEven_nearestUnits (num : Nat) (hden : 0 < den) :
    IsNearestEven (num / den) (nearestUnits num den) := by
  have hs : 0 < spacing (num / den) := spacing_pos _
  have hquot : num / (den * spacing (num / den)) = num / den / spacing (num / den) :=
    (Nat.div_div_eq_div_mul ..).symm
  have hrounds := roundsFrom_roundHalfEven num (Nat.mul_pos hden hs)
  rw [hquot] at hrounds
  have hnearest := hrounds.isNearestEven (div_spacing_lt _) (spacing_truncated _)
  have hq : (num / den : ℚ) = num / (den * spacing (num / den) : Nat) * spacing (num / den) := by
    have hs' : (spacing (num / den) : ℚ) ≠ 0 := by exact_mod_cast hs.ne'
    push_cast
    field_simp
  rw [hq]
  exact_mod_cast hnearest

end Quotients

theorem unitsPerOne_eq : (unitsPerOne : ℚ) = 2 ^ 1074 := by
  unfold unitsPerOne
  generalize 1074 = k
  rw [Nat.pow_eq, Nat.cast_pow, Nat.cast_ofNat]

theorem unitsPerOne_pos : 0 < unitsPerOne := by
  unfold unitsPerOne
  apply Nat.pow_pos
  decide

theorem cast_unitsPerOne_pos : (0 : ℚ) < unitsPerOne := Nat.cast_pos.mpr unitsPerOne_pos

theorem unitLimit_eq : unitLimit = 2 ^ 53 * 2 ^ 2045 := by
  have hexponent : 2098 = 53 + 2045 := rfl
  unfold unitLimit
  rw [hexponent]
  generalize 2045 = k
  rw [Nat.pow_eq, Nat.pow_add]

namespace Magnitude

theorem eq_of_units_eq {a b : Magnitude} (h : a.units = b.units) : a = b := by
  obtain ⟨units, ha⟩ := a
  subst h
  rfl

theorem onGrid (m : Magnitude) : OnGrid m.units := onGrid_iff.mpr m.representable.2

/-- The number that a magnitude is. -/
def value (m : Magnitude) : ℚ := m.units / unitsPerOne

theorem value_mul_unitsPerOne (m : Magnitude) : m.value * unitsPerOne = m.units := by
  rw [value, div_mul_cancel₀ _ cast_unitsPerOne_pos.ne']

end Magnitude

namespace Binary64

variable {negative : Bool} {q : ℚ} {x y : Binary64}

/-- The doubles that a magnitude is rounded to, under a sign. -/
inductive RoundsTo (negative : Bool) (q : ℚ) : Binary64 → Prop where
  | finite {m : Magnitude} : IsNearestEven (q * unitsPerOne) m.units →
      RoundsTo negative q (.finite negative m)
  | infinite {units : Nat} : IsNearestEven (q * unitsPerOne) units → unitLimit ≤ units →
      RoundsTo negative q (.infinity negative)

/-- The middle between the largest finite double and the first power of two beyond it. -/
def overflowBound : ℚ := (2 ^ 53 - 1 / 2) * 2 ^ 971

theorem RoundsTo.unique (hx : RoundsTo negative q x) (hy : RoundsTo negative q y) : x = y := by
  cases hx with
  | @finite m hm =>
    cases hy with
    | finite hn => rw [Magnitude.eq_of_units_eq (hm.unique hn)]
    | infinite hn hlimit =>
      have := m.representable.1
      have := hm.unique hn
      omega
  | infinite hm hlimit =>
    cases hy with
    | @finite n hn =>
      have := n.representable.1
      have := hm.unique hn
      omega
    | infinite hn _ => rfl

theorem roundsTo_finite_iff {m : Magnitude} :
    RoundsTo negative q (.finite negative m) ↔ IsNearestEven (q * unitsPerOne) m.units := by
  constructor
  · rintro ⟨h⟩
    exact h
  · exact .finite

/-- A magnitude that needs no rounding is rounded to itself. -/
theorem roundsTo_value (negative : Bool) (m : Magnitude) :
    RoundsTo negative m.value (.finite negative m) := by
  refine .finite ?_
  rw [m.value_mul_unitsPerOne]
  exact isNearestEven_self m.onGrid

/-- What differs from a magnitude by less than its part of `2 ^ 54` is rounded to it. -/
theorem roundsTo_of_near {m : Magnitude} (hm : m.units ≠ 0)
    (h : |q - m.value| * 2 ^ 54 < m.value) : RoundsTo negative q (.finite negative m) := by
  have hscaled := mul_lt_mul_of_pos_right h cast_unitsPerOne_pos
  rw [mul_right_comm, ← abs_of_pos cast_unitsPerOne_pos, ← abs_mul,
    abs_of_pos cast_unitsPerOne_pos, sub_mul, m.value_mul_unitsPerOne] at hscaled
  exact .finite (isNearestEven_of_near m.onGrid (Nat.pos_of_ne_zero hm) hscaled)

theorem lt_overflowBound_iff :
    q < overflowBound ↔ q * unitsPerOne < (2 ^ 53 - 1 / 2) * 2 ^ 2045 := by
  have hexponent : 2045 = 971 + 1074 := rfl
  have hpos : (0 : ℚ) < 2 ^ 1074 := pow_pos (by decide) _
  rw [overflowBound, unitsPerOne_eq, hexponent, pow_add, ← mul_assoc, mul_lt_mul_iff_left₀ hpos]

theorem RoundsTo.isFinite_iff (h : RoundsTo negative q x) :
    x.isFinite = true ↔ q < overflowBound := by
  rw [lt_overflowBound_iff]
  cases h with
  | @finite m hm =>
    rw [← hm.lt_two_pow_iff, ← unitLimit_eq]
    exact iff_of_true rfl m.representable.1
  | infinite hn hle =>
    rw [← hn.lt_two_pow_iff, ← unitLimit_eq]
    exact iff_of_false (by simp [isFinite]) (Nat.not_lt_of_le hle)

/-- A magnitude between two that are rounded to one double is rounded to it as well. -/
theorem RoundsTo.eq_of_between {a b : ℚ} {m : Magnitude}
    (ha : RoundsTo negative a (.finite negative m)) (haq : a ≤ q)
    (hb : RoundsTo negative b (.finite negative m)) (hqb : q ≤ b) (h : RoundsTo negative q x) :
    x = .finite negative m := by
  have hpos : (0 : ℚ) ≤ unitsPerOne := Nat.cast_nonneg _
  have hlow := mul_le_mul_of_nonneg_right haq hpos
  have hhigh := mul_le_mul_of_nonneg_right hqb hpos
  cases ha with
  | finite ha =>
    cases hb with
    | finite hb =>
      cases h with
      | finite hn =>
        rw [Magnitude.eq_of_units_eq (Nat.le_antisymm (hn.mono hb hhigh) (ha.mono hn hlow))]
      | infinite hn hlimit =>
        have := m.representable.1
        have := hn.mono hb hhigh
        omega

theorem RoundsTo.eq_infinity (h : RoundsTo negative q x) (hq : overflowBound ≤ q) :
    x = .infinity negative := by
  cases h with
  | @finite m hm =>
    have hfinite : RoundsTo negative q (.finite negative m) := .finite hm
    exact absurd (hfinite.isFinite_iff.mp rfl) (not_lt.mpr hq)
  | infinite _ _ => rfl

theorem roundsTo_zero (h : 0 ≤ q) (h' : q * unitsPerOne < 1 / 2) :
    RoundsTo negative q (zero negative) := by
  have hgrid : OnGrid 0 := ⟨0, 0, by decide, rfl⟩
  have hstep : spacing 0 = 1 := rfl
  refine .finite (isNearestEven_of_lt_half hgrid ?_ ?_)
  · rw [Nat.cast_zero]
    exact mul_nonneg h (Nat.cast_nonneg _)
  · rw [hstep, Nat.cast_zero, Nat.cast_one, zero_add]
    exact h'

theorem roundsTo_ofRatio (negative : Bool) (num : Nat) {den : Nat} (hden : 0 < den) :
    RoundsTo negative (num / den) (ofRatio negative num den) := by
  have hnearest := isNearestEven_nearestUnits (num * unitsPerOne) hden
  have hq : ((num * unitsPerOne : Nat) / den : ℚ) = num / den * unitsPerOne := by
    push_cast
    ring
  rw [hq] at hnearest
  unfold ofRatio ofUnits
  split
  · exact .finite hnearest
  · next h => exact .infinite hnearest (Nat.le_of_not_lt h)

/-- A decimal so small that its leading bits say so is rounded to zero. -/
theorem decimal_lt_half {c : Nat} {e : Int} (h : (c.log2 : Int) + 3 * e < -1100) :
    (c * 10 ^ e * unitsPerOne : ℚ) < 1 / 2 := by
  obtain ⟨k, rfl⟩ : ∃ k : Nat, e = -k := ⟨(-e).toNat, by omega⟩
  have hlead : (c : ℚ) < 2 ^ (c.log2 + 1) := by exact_mod_cast Nat.lt_log2_self
  have hpower : (2 : ℚ) ^ (3 * k) ≤ 10 ^ k := by
    rw [pow_mul]
    exact pow_le_pow_left₀ (by norm_num) (by norm_num) k
  have hbits : (2 : ℚ) ^ (c.log2 + 1 + 1074 + 1) ≤ 2 ^ (3 * k) :=
    pow_le_pow_right₀ (by norm_num) (by omega)
  have htwo : (0 : ℚ) < 2 ^ 1074 := pow_pos (by norm_num) _
  rw [unitsPerOne_eq, zpow_neg, zpow_natCast, ← div_eq_mul_inv, div_mul_eq_mul_div,
    div_lt_div_iff₀ (by positivity) (by norm_num), one_mul]
  calc (c : ℚ) * 2 ^ 1074 * 2 < 2 ^ (c.log2 + 1) * 2 ^ 1074 * 2 := by
        rw [mul_lt_mul_iff_left₀ (by norm_num), mul_lt_mul_iff_left₀ htwo]
        exact hlead
    _ = 2 ^ (c.log2 + 1 + 1074 + 1) := by
        rw [pow_succ _ (c.log2 + 1 + 1074), pow_add (2 : ℚ) (c.log2 + 1) 1074]
    _ ≤ 10 ^ k := hbits.trans hpower

theorem overflowBound_le_decimal {c : Nat} {e : Int} (hc : c ≠ 0) (he : 310 ≤ e) :
    overflowBound ≤ c * 10 ^ e := by
  have hone : (1 : ℚ) ≤ c := by exact_mod_cast Nat.one_le_iff_ne_zero.mpr hc
  have hpos : (0 : ℚ) < 10 ^ e := zpow_pos (by norm_num) e
  calc overflowBound ≤ 2 ^ 53 * 2 ^ 971 := by
        rw [overflowBound]
        exact mul_le_mul_of_nonneg_right (by norm_num) (pow_nonneg (by norm_num) _)
    _ ≤ (2 ^ 205) ^ 5 := by
        rw [← pow_add, ← pow_mul]
        exact pow_le_pow_right₀ (by norm_num) (by norm_num)
    _ ≤ (10 ^ 62 : ℚ) ^ 5 := pow_le_pow_left₀ (by norm_num) (by norm_num) 5
    _ = 10 ^ (310 : Int) := by rw [← pow_mul, ← zpow_natCast]; rfl
    _ ≤ 10 ^ e := zpow_le_zpow_right₀ (by norm_num) he
    _ ≤ c * 10 ^ e := le_mul_of_one_le_left hpos.le hone

theorem roundsTo_decimalRatio (negative : Bool) (c : Nat) (e : Int) :
    RoundsTo negative (c * 10 ^ e)
      (if 0 ≤ e then ofRatio negative (c * Nat.pow 10 e.toNat) 1
      else ofRatio negative c (Nat.pow 10 (-e).toNat)) := by
  split
  · next he =>
    obtain ⟨k, rfl⟩ := Int.eq_ofNat_of_zero_le he
    have hratio := roundsTo_ofRatio negative (c * 10 ^ k) Nat.one_pos
    rw [Nat.cast_one, div_one, Nat.cast_mul, Nat.cast_pow, Nat.cast_ofNat] at hratio
    rwa [zpow_natCast]
  · next he =>
    obtain ⟨k, rfl⟩ : ∃ k : Nat, e = -k := ⟨(-e).toNat, by omega⟩
    have hden : 0 < 10 ^ k := Nat.pow_pos (by decide)
    have hratio := roundsTo_ofRatio negative c hden
    rw [Nat.cast_pow, Nat.cast_ofNat] at hratio
    rw [zpow_neg, zpow_natCast, ← div_eq_mul_inv, neg_neg, Int.toNat_natCast]
    exact hratio

/-- The double of a decimal is what its exact value is rounded to. -/
theorem roundsTo_ofDecimal (negative : Bool) (c : Nat) (e : Int) :
    RoundsTo negative (c * 10 ^ e) (ofDecimal negative c e) := by
  have hnonneg : (0 : ℚ) ≤ c * 10 ^ e := mul_nonneg (Nat.cast_nonneg c) (zpow_nonneg (by norm_num) e)
  have hratio := roundsTo_decimalRatio negative c e
  unfold ofDecimal
  -- of the answers that are given early each is the one that the quotient would be rounded to
  split
  · next hc =>
    refine roundsTo_zero hnonneg ?_
    rw [hc, Nat.cast_zero, zero_mul, zero_mul]
    norm_num
  split
  · next hc he => rwa [← hratio.eq_infinity (overflowBound_le_decimal hc he)]
  split
  · next hsmall => exact roundsTo_zero hnonneg (decimal_lt_half hsmall)
  · exact hratio

end Binary64

end ParameterTemplates
