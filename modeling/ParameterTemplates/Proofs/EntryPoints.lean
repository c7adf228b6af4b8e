import ParameterTemplates.Proofs.Faults
import ParameterTemplates.Proofs.Precedence

/-! Resolution for one given shape against resolution for any shape. They agree on the shape that an
expression is classified as, and all other shapes refuse it, except that a dual equality is also read
as an equality; that one fails at the latest where it takes its right side for a literal. -/
namespace ParameterTemplates
open Template

variable {table : Table} {wanted : ValueType} {e : Text} {s : Shape} {kind : ShapeKind}

theorem resolveAs_of_read? (h : read? kind e = some s) :
    resolveAs kind table wanted e = evaluate table wanted s := by
  rw [resolveAs, h]

theorem resolveAs_of_read?_eq_none (h : read? kind e = none) :
    (resolveAs kind table wanted e).outcome = .error (.structural e (.otherForm kind)) := by
  rw [resolveAs, h]
  rfl

theorem Template.read?_of_classify? (h : classify? e = some s) : read? s.kind e = some s :=
  read?_eq_some_iff.mpr ⟨rfl, written_of_classify? h⟩

/-- Of another shape than its own a template is read only as an equality with a reference. -/
theorem Template.read?_eq_none_of_kind_ne (h : classify? e = some s) (hk : kind ≠ s.kind)
    (hdual : ¬(kind = .equality ∧ s.kind = .dualEquality)) : read? kind e = none := by
  obtain ⟨hs, hfirst⟩ := classify?_eq_some_iff.mp h
  rw [Option.eq_none_iff_forall_ne_some]
  intro t ht
  obtain ⟨rfl, hw⟩ := read?_eq_some_iff.mp ht
  rcases hw.eq_or hs with rfl | hkinds | ⟨htdual, hsequality⟩
  · exact hk rfl
  · exact hdual hkinds
  · exact hfirst hsequality t hw htdual

/-- A reference is no literal of any type, so that the comparison with one has no answer. -/
theorem evaluateEquality_reference {name rhs right : Text} (hr : reference? rhs = some right) :
    ∃ err, (evaluateEquality table name rhs).outcome = .error err ∧
      EqualityFault table name rhs err := by
  cases h : (evaluateEquality table name rhs).outcome with
  | error err => exact ⟨err, rfl, evaluateEquality_eq_error_iff.mp h⟩
  | ok c =>
    obtain ⟨p, type, u, v, -, -, -, hcoerce, -⟩ := evaluateEquality_eq_ok_iff.mp h
    rw [(Literal.coerce_eq_ok_iff.mp hcoerce).1] at hr
    contradiction

/-- The answer to a comparison is a truth value, whatever type is wanted. -/
theorem evaluate_comparison_outcome (table : Table)
    (h : s.kind = .equality ∨ s.kind = .dualEquality) : ∃ answer : Except ResolveError Bool,
      ∀ wanted, (evaluate table wanted s).outcome = answer.map .boolean := by
  cases s with
  | equality name rhs => exact ⟨_, fun w => evaluate_equality_outcome table w name rhs⟩
  | dualEquality left right => exact ⟨_, fun w => evaluate_dualEquality_outcome table w left right⟩
  | identity | ternary | literalTernary => simp [Shape.kind] at h

/-- Resolution for the shape of an expression answers as resolution does, a comparison with a truth
value that the type wanted has no part in. For every other shape it refuses the expression, save that
a dual equality is compared as an equality, which fails in one of the ways of an equality. -/
theorem entry_points_agree (table : Table) (wanted : ValueType) (e : Text) :
    (∀ s, (classify e).outcome = .ok s →
      (resolveAs s.kind table wanted e).outcome = (resolve table wanted e).outcome ∧
      (s.kind = .equality ∨ s.kind = .dualEquality → ∃ answer : Except ResolveError Bool,
        ∀ w, (resolveAs s.kind table w e).outcome = answer.map .boolean) ∧
      (∀ kind, kind ≠ s.kind → ¬(kind = .equality ∧ s.kind = .dualEquality) →
        (resolveAs kind table wanted e).outcome = .error (.structural e (.otherForm kind))) ∧
      ∀ left right, s = .dualEquality left right →
        resolveAs .equality table wanted e =
          evaluate table wanted (.equality left (referTo right)) ∧
        ∃ err, (resolveAs .equality table wanted e).outcome = .error err ∧
          EqualityFault table left (referTo right) err) ∧
    ∀ err, (classify e).outcome = .error err → ∀ kind,
      (resolveAs kind table wanted e).outcome = .error (.structural e (.otherForm kind)) := by
  constructor
  · intro s h
    have hs := classify_eq_ok_iff.mp h
    have hown : ∀ w, resolveAs s.kind table w e = evaluate table w s := fun w =>
      resolveAs_of_read? (read?_of_classify? hs)
    refine ⟨?_, fun hk => ?_, fun kind hk hdual => ?_, fun left right hshape => ?_⟩
    · rw [hown, resolve_outcome, hs]
    · simp only [hown]
      exact evaluate_comparison_outcome table hk
    · exact resolveAs_of_read?_eq_none (read?_eq_none_of_kind_ne hs hk hdual)
    · rw [hshape] at hs
      obtain ⟨hn, hw⟩ := (written_of_classify? hs).equality_referTo
      have hread : resolveAs .equality table wanted e =
          evaluate table wanted (.equality left (referTo right)) :=
        resolveAs_of_read? (read?_eq_some_iff.mpr ⟨rfl, hw⟩)
      obtain ⟨err, herr, hfault⟩ := evaluateEquality_reference (reference?_referTo hn)
      refine ⟨hread, err, ?_, hfault⟩
      rw [hread, evaluate_equality_outcome, herr]
      rfl
  · intro err h kind
    have hnone : classify? e = none := classify?_eq_none_of_error h
    exact resolveAs_of_read?_eq_none (classify?_eq_none_iff_read?.mp hnone kind)

/-- Two parameters that hold the same string, compared for three of the shapes. -/
theorem entry_points_agree_strings :
    let table : Table := fun _ => some (.ofScalar (.string ['x']))
    (classify comparedReference).outcome = .ok (.dualEquality ['a'] ['b']) ∧
      (resolveAs .dualEquality table .number comparedReference).outcome =
        (resolve table .number comparedReference).outcome ∧
      (resolveAs .identity table .number comparedReference).outcome =
        .error (.structural comparedReference (.otherForm .identity)) ∧
      ∃ err, (resolveAs .equality table .number comparedReference).outcome = .error err ∧
        EqualityFault table ['a'] (referTo ['b']) err := by
  intro table
  have hs : (classify comparedReference).outcome = .ok (.dualEquality ['a'] ['b']) := by
    decide +kernel
  obtain ⟨hown, -, hother, hequality⟩ :=
    (entry_points_agree table .number comparedReference).1 _ hs
  exact ⟨hs, hown, hother .identity (by decide) (by decide), (hequality _ _ rfl).2⟩

end ParameterTemplates
