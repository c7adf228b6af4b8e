import ParameterTemplates.Proofs.OutcomeLaw

/-! The comparison of two parameters over a table of values. It goes by the type of the left one,
and yet it is symmetric and transitive, as the equality of values is: it has the same answer either
way round, and equal parameters compare alike with every literal. -/
namespace ParameterTemplates

namespace Values

variable {values : Values} {a b c : Text}

theorem evaluateDualEquality_eq_ok_iff_values {same : Bool} :
    (evaluateDualEquality values.table a b).outcome = .ok same ↔
      ∃ u v, values a = some u ∧ values b = some v ∧ u.type = v.type ∧ u.sameValue v = same := by
  rw [evaluateDualEquality_eq_iff]
  constructor
  · intro h
    cases h with
    | compared ha hb htype => exact ⟨_, _, ha, hb, htype, rfl⟩
  · intro h
    obtain ⟨u, v, ha, hb, htype, rfl⟩ := h
    exact .compared ha hb htype

/-- The comparison the other way round: which name is blamed may differ, the kind of fault does
not. -/
theorem EqualsName.swap {r : Except ResolveError Bool} (h : values.EqualsName a b r) :
    ∃ r', values.EqualsName b a r' ∧
      r'.mapError ResolveError.kind = r.mapError ResolveError.kind := by
  cases h with
  | absentLeft ha =>
    cases hb : values b with
    | none => exact ⟨_, .absentLeft hb, rfl⟩
    | some v => exact ⟨_, .absentRight hb ha, rfl⟩
  | absentRight ha hb => exact ⟨_, .absentLeft hb, rfl⟩
  | incomparable ha hb hne => exact ⟨_, .incomparable hb ha hne.symm, rfl⟩
  | @compared u v ha hb htype =>
    refine ⟨_, .compared hb ha htype.symm, ?_⟩
    rw [Scalar.sameValue_comm]

theorem evaluateDualEquality_comm (values : Values) (a b : Text) :
    (evaluateDualEquality values.table a b).outcome.mapError ResolveError.kind =
      (evaluateDualEquality values.table b a).outcome.mapError ResolveError.kind := by
  obtain ⟨r, hr, hkind⟩ := EqualsName.swap ((evaluateDualEquality_eq_iff _).mp
    (rfl : (evaluateDualEquality values.table b a).outcome = _))
  rw [(evaluateDualEquality_eq_iff r).mpr hr, hkind]

theorem evaluateDualEquality_trans
    (hab : (evaluateDualEquality values.table a b).outcome = .ok true)
    (hbc : (evaluateDualEquality values.table b c).outcome = .ok true) :
    (evaluateDualEquality values.table a c).outcome = .ok true := by
  obtain ⟨u, v, ha, hb, htype, hsame⟩ := evaluateDualEquality_eq_ok_iff_values.mp hab
  obtain ⟨v', w, hb', hc, htype', hsame'⟩ := evaluateDualEquality_eq_ok_iff_values.mp hbc
  obtain rfl : v = v' := Option.some.inj (hb.symm.trans hb')
  refine evaluateDualEquality_eq_ok_iff_values.mpr ⟨u, w, ha, hc, htype.trans htype', ?_⟩
  rw [Scalar.sameValue_congr hsame, hsame']

theorem evaluateDualEquality_self {u : Scalar} (ha : values a = some u) :
    (evaluateDualEquality values.table a a).outcome = .ok (decide (u ≠ .number .nan)) :=
  evaluateDualEquality_eq_ok_iff_values.mpr ⟨u, u, ha, ha, rfl, u.sameValue_self⟩

/-- Equal parameters are compared with a literal as the same type, so that the literal is read alike
for both. -/
theorem evaluateEquality_congr_of_same
    (h : (evaluateDualEquality values.table a b).outcome = .ok true) (rhs : Text) :
    (∃ same, (evaluateEquality values.table a rhs).outcome = .ok same ∧
      (evaluateEquality values.table b rhs).outcome = .ok same) ∨
    ∃ type, (evaluateEquality values.table a rhs).outcome = .error (.malformed rhs type) ∧
      (evaluateEquality values.table b rhs).outcome = .error (.malformed rhs type) := by
  obtain ⟨u, v, ha, hb, htype, hsame⟩ := evaluateDualEquality_eq_ok_iff_values.mp h
  simp only [evaluateEquality_eq_iff]
  cases hread : Literal.read? u.type rhs with
  | none =>
    right
    refine ⟨u.type, .malformed ha hread, ?_⟩
    rw [htype] at hread ⊢
    exact .malformed hb hread
  | some w =>
    left
    refine ⟨u.sameValue w, .compared ha hread, ?_⟩
    rw [htype] at hread
    rw [Scalar.sameValue_congr hsame]
    exact .compared hb hread

end Values

/-- Over a table of values the comparison of parameters is a partial equivalence. Either way round
it has the same answer or a fault of the same kind; it is transitive; a parameter equals itself
unless it is NaN; and parameters that are equal compare alike with every literal, or the literal is
malformed for both. -/
theorem dual_equality_partial_equivalence (values : Values) :
    (∀ a b, (evaluateDualEquality values.table a b).outcome.mapError ResolveError.kind =
      (evaluateDualEquality values.table b a).outcome.mapError ResolveError.kind) ∧
    (∀ a b c, (evaluateDualEquality values.table a b).outcome = .ok true →
      (evaluateDualEquality values.table b c).outcome = .ok true →
      (evaluateDualEquality values.table a c).outcome = .ok true) ∧
    (∀ a u, values a = some u →
      (evaluateDualEquality values.table a a).outcome = .ok (decide (u ≠ .number .nan))) ∧
    ∀ a b, (evaluateDualEquality values.table a b).outcome = .ok true → ∀ rhs,
      (∃ same, (evaluateEquality values.table a rhs).outcome = .ok same ∧
        (evaluateEquality values.table b rhs).outcome = .ok same) ∨
      ∃ type, (evaluateEquality values.table a rhs).outcome = .error (.malformed rhs type) ∧
        (evaluateEquality values.table b rhs).outcome = .error (.malformed rhs type) :=
  ⟨values.evaluateDualEquality_comm, fun _ _ _ => Values.evaluateDualEquality_trans,
    fun _ _ => Values.evaluateDualEquality_self,
    fun _ _ => Values.evaluateEquality_congr_of_same⟩

/-- The two zeros, and NaN under a third name. -/
theorem dual_equality_partial_equivalence_zeros :
    let values : Values := (((Bindings.empty.set ['p'] (.number (.zero false))).set ['m']
      (.number (.zero true))).set ['n'] (.number .nan)).find?
    (evaluateDualEquality values.table ['p'] ['m']).outcome = .ok true ∧
      (evaluateDualEquality values.table ['p'] ['p']).outcome = .ok true ∧
      (evaluateDualEquality values.table ['n'] ['n']).outcome = .ok false ∧
      (evaluateEquality values.table ['p'] "-0e5".toList).outcome =
        (evaluateEquality values.table ['m'] "-0e5".toList).outcome ∧
      ((evaluateDualEquality values.table ['n'] ['q']).outcome.mapError ResolveError.kind =
        (evaluateDualEquality values.table ['q'] ['n']).outcome.mapError ResolveError.kind) := by
  intro values
  obtain ⟨hcomm, htrans, hself, hcongr⟩ := dual_equality_partial_equivalence values
  have hpm : (evaluateDualEquality values.table ['p'] ['m']).outcome = .ok true := by
    decide +kernel
  have hmp : (evaluateDualEquality values.table ['m'] ['p']).outcome = .ok true := by
    decide +kernel
  have hn : values ['n'] = some (.number .nan) := by decide +kernel
  refine ⟨hpm, htrans _ _ _ hpm hmp, hself _ _ hn, ?_, hcomm _ _⟩
  obtain ⟨same, hp, hm⟩ | ⟨type, hp, hm⟩ := hcongr _ _ hpm "-0e5".toList
  · rw [hp, hm]
  · rw [hp, hm]

end ParameterTemplates
