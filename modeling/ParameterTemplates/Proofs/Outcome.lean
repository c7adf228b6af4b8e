import ParameterTemplates.Resolution.Resolve

/-! Outcomes of a resolution: where an answer comes from and which type it has, and which part of
the work a failure comes from. -/
namespace ParameterTemplates
open Template

namespace Traced

variable {α β : Type}

@[simp] theorem outcome_ofExcept (r : Except ResolveError α) : (ofExcept r).outcome = r := rfl

@[simp] theorem outcome_note (r : Record) : (note r).outcome = .ok () := rfl

@[simp] theorem outcome_fail (e : ResolveError) : (fail e : Traced α).outcome = .error e := rfl

/-- Work that goes on alike from every answer is alike. -/
theorem bind_congr {x : Traced α} {f g : α → Traced β} (h : ∀ a, x.outcome = .ok a → f a = g a) :
    x >>= f = x >>= g := by
  cases hx : x.outcome with
  | ok a => rw [bind_of_ok hx, bind_of_ok hx, h a hx]
  | error e => rw [bind_of_error hx, bind_of_error hx]

theorem outcome_bind_eq_ok {x : Traced α} {f : α → Traced β} {b : β} :
    (x >>= f).outcome = .ok b ↔ ∃ a, x.outcome = .ok a ∧ (f a).outcome = .ok b := by
  cases h : x.outcome with
  | ok a => simp [bind_of_ok h]
  | error e => simp [bind_of_error h]

theorem outcome_bind_eq_error {x : Traced α} {f : α → Traced β} {e : ResolveError} :
    (x >>= f).outcome = .error e ↔
      x.outcome = .error e ∨ ∃ a, x.outcome = .ok a ∧ (f a).outcome = .error e := by
  cases h : x.outcome with
  | ok a => simp [bind_of_ok h]
  | error e' => simp [bind_of_error h]

/-- Work in two parts has the outcome of the second part on what the first one answers. -/
theorem outcome_bind (x : Traced α) (f : α → Traced β) :
    (x >>= f).outcome = x.outcome >>= fun a => (f a).outcome := by
  cases h : x.outcome with
  | ok a => rw [bind_of_ok h]; rfl
  | error e => rw [bind_of_error h]; rfl

end Traced

theorem Literal.type_of_read? {wanted : ValueType} {t : Text} {v : Scalar}
    (h : Literal.read? wanted t = some v) : v.type = wanted := by
  cases wanted with
  | string =>
    obtain ⟨s, -, rfl⟩ := Option.map_eq_some_iff.mp h
    rfl
  | number =>
    simp only [Literal.read?, Literal.number?] at h
    split at h
    · obtain ⟨-, h⟩ := Option.ite_none_right_eq_some.mp h
      cases h
      rfl
    · contradiction
  | boolean =>
    simp only [Literal.read?, Literal.boolean?] at h
    split at h
    · cases h
      rfl
    · obtain ⟨-, h⟩ := Option.ite_none_right_eq_some.mp h
      cases h
      rfl

theorem Literal.coerce_eq_ok_iff {wanted : ValueType} {t : Text} {v : Scalar} :
    Literal.coerce wanted t = .ok v ↔ reference? t = none ∧ Literal.read? wanted t = some v := by
  unfold Literal.coerce Literal.read
  cases reference? t <;> cases Literal.read? wanted t <;> simp

theorem Literal.eq_malformed_of_coerce {wanted : ValueType} {t : Text} {e : ResolveError}
    (h : Literal.coerce wanted t = .error e) : e = .malformed t wanted := by
  unfold Literal.coerce Literal.read at h
  split at h
  · exact (Except.error.inj h).symm
  · split at h
    · contradiction
    · exact (Except.error.inj h).symm

theorem Parameter.type_of_access {p : Parameter} {type : ValueType} {v : Scalar}
    (h : p.access type = some v) : v.type = type := by
  cases type <;> obtain ⟨a, -, rfl⟩ := Option.map_eq_some_iff.mp h <;> rfl

theorem Parameter.readAs_eq_ok_iff {name : Text} {p : Parameter} {type : ValueType} {v : Scalar} :
    p.readAs name type = .ok v ↔ p.isLegal type = true ∧ p.access type = some v := by
  unfold Parameter.readAs
  cases p.isLegal type <;> cases p.access type <;> simp

theorem Parameter.readAs_eq_error_iff {name : Text} {p : Parameter} {type : ValueType}
    {e : ResolveError} : p.readAs name type = .error e ↔
      p.isLegal type = false ∧ e = .typeMismatch (.notLegal name type p.legalTypes) ∨
      p.isLegal type = true ∧ p.access type = none ∧ e = .typeMismatch (.noValue name type) := by
  unfold Parameter.readAs
  cases p.isLegal type <;> cases p.access type <;> simp [eq_comm]

theorem Parameter.legalTypes_ofScalar (v : Scalar) : (ofScalar v).legalTypes = [v.type] := by
  cases v <;> rfl

theorem Parameter.head?_legalTypes_ofScalar (v : Scalar) :
    (ofScalar v).legalTypes.head? = some v.type := by
  rw [legalTypes_ofScalar, List.head?_cons]

theorem Parameter.isLegal_ofScalar (v : Scalar) (type : ValueType) :
    (ofScalar v).isLegal type = decide (v.type = type) := by
  cases v <;> cases type <;> rfl

theorem Parameter.access_ofScalar (v : Scalar) : (ofScalar v).access v.type = some v := by
  cases v <;> rfl

theorem Parameter.readAs_ofScalar (name : Text) (v : Scalar) :
    (ofScalar v).readAs name v.type = .ok v := by
  cases v <;> rfl

namespace Table

theorem find_eq_ok_iff {table : Table} {name : Text} {p : Parameter} :
    table.find name = .ok p ↔ table name = some p := by
  unfold find
  cases table name <;> simp

theorem find_eq_error_iff {table : Table} {name : Text} {e : ResolveError} :
    table.find name = .error e ↔ table name = none ∧ e = .unresolved name := by
  unfold find
  cases table name <;> simp [eq_comm]

theorem value_eq_ok_iff {table : Table} {wanted : ValueType} {name : Text} {v : Scalar} :
    table.value wanted name = .ok v ↔
      ∃ p, table name = some p ∧ p.isLegal wanted = true ∧ p.access wanted = some v := by
  unfold value find
  cases table name with
  | none => simp [Bind.bind, Except.bind]
  | some p => simp [Bind.bind, Except.bind, Parameter.readAs_eq_ok_iff]

theorem value_eq_error_iff {table : Table} {wanted : ValueType} {name : Text} {e : ResolveError} :
    table.value wanted name = .error e ↔ table name = none ∧ e = .unresolved name ∨
      ∃ p, table name = some p ∧ p.readAs name wanted = .error e := by
  unfold value find
  cases table name with
  | none => simp [Bind.bind, Except.bind, eq_comm]
  | some p => simp [Bind.bind, Except.bind]

theorem type_of_branchValue {table : Table} {wanted : ValueType} {branch : Text} {v : Scalar}
    (h : table.branchValue wanted branch = .ok v) : v.type = wanted := by
  unfold branchValue at h
  split at h
  · obtain ⟨p, -, -, ha⟩ := value_eq_ok_iff.mp h
    exact p.type_of_access ha
  · exact Literal.type_of_read? (Literal.coerce_eq_ok_iff.mp h).2

end Table

theorem Parameter.inferType_eq_ok_iff {name : Text} {p : Parameter} {type : ValueType} :
    (p.inferType name).outcome = .ok type ↔ p.legalTypes.head? = some type := by
  unfold Parameter.inferType
  rcases p.legalTypes with _ | ⟨first, _ | ⟨second, others⟩⟩
  · simp
  · simp
  · simp [Traced.outcome_bind_eq_ok]

theorem Parameter.inferType_eq_error_iff {name : Text} {p : Parameter} {e : ResolveError} :
    (p.inferType name).outcome = .error e ↔ p.legalTypes = [] ∧ e = .noLegalType name := by
  unfold Parameter.inferType
  rcases p.legalTypes with _ | ⟨first, _ | ⟨second, others⟩⟩
  · simp [eq_comm]
  · simp
  · simp [Traced.outcome_bind_eq_error]

theorem evaluateEquality_eq_ok_iff {table : Table} {name rhs : Text} {c : Bool} :
    (evaluateEquality table name rhs).outcome = .ok c ↔
      ∃ p type left right, table name = some p ∧ p.legalTypes.head? = some type ∧
        p.readAs name type = .ok left ∧ Literal.coerce type rhs = .ok right ∧
        left.sameValue right = c := by
  simp only [evaluateEquality, Traced.outcome_bind_eq_ok, Traced.outcome_ofExcept,
    Traced.outcome_note, Traced.outcome_pure, Table.find_eq_ok_iff, Parameter.inferType_eq_ok_iff,
    Except.ok.injEq, exists_const, true_and, exists_and_left]

/-- A value compares with a literal of its own type. -/
theorem evaluateEquality_of_value {table : Table} {name rhs : Text} {u v : Scalar}
    (hp : table name = some (.ofScalar u)) (hr : Literal.coerce u.type rhs = .ok v) :
    (evaluateEquality table name rhs).outcome = .ok (u.sameValue v) := by
  exact evaluateEquality_eq_ok_iff.mpr ⟨.ofScalar u, u.type, u, v, hp,
    Parameter.head?_legalTypes_ofScalar u, Parameter.readAs_ofScalar name u, hr, rfl⟩

theorem evaluate_equality_outcome (table : Table) (wanted : ValueType) (name rhs : Text) :
    (evaluate table wanted (.equality name rhs)).outcome =
      (evaluateEquality table name rhs).outcome.map .boolean := by
  rw [evaluate, Traced.outcome_bind]
  cases (evaluateEquality table name rhs).outcome <;> rfl

theorem evaluate_dualEquality_outcome (table : Table) (wanted : ValueType) (left right : Text) :
    (evaluate table wanted (.dualEquality left right)).outcome =
      (evaluateDualEquality table left right).outcome.map .boolean := by
  rw [evaluate, Traced.outcome_bind]
  cases (evaluateDualEquality table left right).outcome <;> rfl

theorem evaluate_equality_eq_ok_iff {table : Table} {wanted : ValueType} {name rhs : Text}
    {v : Scalar} : (evaluate table wanted (.equality name rhs)).outcome = .ok v ↔
      ∃ c, (evaluateEquality table name rhs).outcome = .ok c ∧ .boolean c = v := by
  simp only [evaluate, Traced.outcome_bind_eq_ok, Traced.outcome_pure, Except.ok.injEq]

theorem evaluate_dualEquality_eq_ok_iff {table : Table} {wanted : ValueType} {left right : Text}
    {v : Scalar} : (evaluate table wanted (.dualEquality left right)).outcome = .ok v ↔
      ∃ c, (evaluateDualEquality table left right).outcome = .ok c ∧ .boolean c = v := by
  simp only [evaluate, Traced.outcome_bind_eq_ok, Traced.outcome_pure, Except.ok.injEq]

theorem evaluate_equality_eq_error_iff {table : Table} {wanted : ValueType} {name rhs : Text}
    {e : ResolveError} : (evaluate table wanted (.equality name rhs)).outcome = .error e ↔
      (evaluateEquality table name rhs).outcome = .error e := by
  rw [evaluate, Traced.outcome_bind_eq_error]
  simp only [Traced.outcome_pure, reduceCtorEq, and_false, exists_false, or_false]

theorem evaluate_dualEquality_eq_error_iff {table : Table} {wanted : ValueType} {left right : Text}
    {e : ResolveError} : (evaluate table wanted (.dualEquality left right)).outcome = .error e ↔
      (evaluateDualEquality table left right).outcome = .error e := by
  rw [evaluate, Traced.outcome_bind_eq_error]
  simp only [Traced.outcome_pure, reduceCtorEq, and_false, exists_false, or_false]

/-- A choice fails as its condition does, or goes on with the branch that the condition selects. -/
theorem evaluateTernary_outcome (table : Table) (wanted : ValueType) (name rhs x y : Text) :
    (evaluateTernary table wanted name rhs x y).outcome =
      (evaluateEquality table name rhs).outcome >>= fun holds =>
        table.branchValue wanted (if holds then x else y) := by
  rw [evaluateTernary, Traced.outcome_bind]
  rfl

theorem evaluateLiteralTernary_outcome (table : Table) (wanted : ValueType) (name x y : Text) :
    (evaluateLiteralTernary table wanted name x y).outcome =
      condition table name >>= fun holds =>
        table.branchValue wanted (if holds then x else y) := by
  rw [evaluateLiteralTernary, Traced.outcome_bind]
  rfl

theorem evaluateTernary_eq_ok_iff {table : Table} {wanted : ValueType} {name rhs x y : Text}
    {v : Scalar} : (evaluateTernary table wanted name rhs x y).outcome = .ok v ↔
      ∃ c, (evaluateEquality table name rhs).outcome = .ok c ∧
        table.branchValue wanted (if c then x else y) = .ok v := by
  simp only [evaluateTernary, Traced.outcome_bind_eq_ok, Traced.outcome_note,
    Traced.outcome_ofExcept, exists_const, true_and]

theorem evaluateLiteralTernary_eq_ok_iff {table : Table} {wanted : ValueType} {name x y : Text}
    {v : Scalar} : (evaluateLiteralTernary table wanted name x y).outcome = .ok v ↔
      ∃ c, condition table name = .ok c ∧
        table.branchValue wanted (if c then x else y) = .ok v := by
  simp only [evaluateLiteralTernary, Traced.outcome_bind_eq_ok, Traced.outcome_note,
    Traced.outcome_ofExcept, exists_const, true_and]

theorem evaluateTernary_eq_error_iff {table : Table} {wanted : ValueType} {name rhs x y : Text}
    {e : ResolveError} : (evaluateTernary table wanted name rhs x y).outcome = .error e ↔
      (evaluateEquality table name rhs).outcome = .error e ∨
      ∃ c, (evaluateEquality table name rhs).outcome = .ok c ∧
        table.branchValue wanted (if c then x else y) = .error e := by
  simp only [evaluateTernary, Traced.outcome_bind_eq_error, Traced.outcome_note,
    Traced.outcome_ofExcept, exists_const, true_and, reduceCtorEq, false_or]

theorem evaluateLiteralTernary_eq_error_iff {table : Table} {wanted : ValueType} {name x y : Text}
    {e : ResolveError} : (evaluateLiteralTernary table wanted name x y).outcome = .error e ↔
      condition table name = .error e ∨
      ∃ c, condition table name = .ok c ∧
        table.branchValue wanted (if c then x else y) = .error e := by
  simp only [evaluateLiteralTernary, Traced.outcome_bind_eq_error, Traced.outcome_note,
    Traced.outcome_ofExcept, exists_const, true_and, reduceCtorEq, false_or]

/-- A choice answers with the type that is wanted. -/
theorem type_of_evaluateTernary {table : Table} {wanted : ValueType} {name rhs x y : Text}
    {v : Scalar} (h : (evaluateTernary table wanted name rhs x y).outcome = .ok v) :
    v.type = wanted := by
  obtain ⟨c, -, hv⟩ := evaluateTernary_eq_ok_iff.mp h
  exact Table.type_of_branchValue hv

theorem classify_outcome (expression : Text) : (classify expression).outcome =
    match classify? expression with
    | some shape => .ok shape
    | none => .error (.structural expression .unsupported) := by
  unfold classify
  cases classify? expression <;> rfl

theorem resolve_outcome (table : Table) (wanted : ValueType) (expression : Text) :
    (resolve table wanted expression).outcome =
      match classify? expression with
      | some shape => (evaluate table wanted shape).outcome
      | none => .error (.structural expression .unsupported) := by
  have h := classify_outcome expression
  unfold resolve
  cases hc : classify? expression with
  | some shape =>
    rw [hc] at h
    rw [Traced.bind_of_ok h]
  | none =>
    rw [hc] at h
    rw [Traced.bind_of_error h]

end ParameterTemplates
