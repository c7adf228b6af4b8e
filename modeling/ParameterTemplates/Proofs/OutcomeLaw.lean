import ParameterTemplates.Proofs.Classification
import ParameterTemplates.Proofs.Faults
import ParameterTemplates.Proofs.Literal
import ParameterTemplates.Proofs.Meaning

/-! Resolution over tables of values, where each parameter has the type of its value and no other. The
outcome of every shape is given by rules that speak of names, values and literals only: types are
not inferred, and no parameter is illegal as the type it has. -/
namespace ParameterTemplates
open Template

/-- What parameters hold, one value each. -/
abbrev Values := Text → Option Scalar

namespace Values

/-- The table of parameters that hold values. -/
def table (values : Values) : Table := fun name => (values name).map .ofScalar

/-- What a name stands for where a type is wanted. -/
inductive Reads (values : Values) (wanted : ValueType) (name : Text) :
    Except ResolveError Scalar → Prop where
  | absent : values name = none → Reads values wanted name (.error (.unresolved name))
  | mismatch {v : Scalar} : values name = some v → v.type ≠ wanted →
      Reads values wanted name (.error (.typeMismatch (.notLegal name wanted [v.type])))
  | value {v : Scalar} : values name = some v → v.type = wanted → Reads values wanted name (.ok v)

/-- What a branch stands for where a type is wanted. -/
inductive Takes (values : Values) (wanted : ValueType) (branch : Text) :
    Except ResolveError Scalar → Prop where
  | reference {name : Text} {r : Except ResolveError Scalar} : reference? branch = some name →
      Reads values wanted name r → Takes values wanted branch r
  | literal {v : Scalar} : reference? branch = none → Literal.read? wanted branch = some v →
      Takes values wanted branch (.ok v)
  | malformed : reference? branch = none → Literal.read? wanted branch = none →
      Takes values wanted branch (.error (.malformed branch wanted))

/-- How a name compares with a literal, which has to be of the type of its value. -/
inductive Equals (values : Values) (name rhs : Text) : Except ResolveError Bool → Prop where
  | absent : values name = none → Equals values name rhs (.error (.unresolved name))
  | malformed {v : Scalar} : values name = some v → Literal.read? v.type rhs = none →
      Equals values name rhs (.error (.malformed rhs v.type))
  | compared {v u : Scalar} : values name = some v → Literal.read? v.type rhs = some u →
      Equals values name rhs (.ok (v.sameValue u))

/-- How two names compare, which have to stand for values of one type. -/
inductive EqualsName (values : Values) (left right : Text) : Except ResolveError Bool → Prop where
  | absentLeft : values left = none → EqualsName values left right (.error (.unresolved left))
  | absentRight {v : Scalar} : values left = some v → values right = none →
      EqualsName values left right (.error (.unresolved right))
  | incomparable {v u : Scalar} : values left = some v → values right = some u →
      v.type ≠ u.type →
      EqualsName values left right (.error (.typeMismatch (.incomparable left v.type right)))
  | compared {v u : Scalar} : values left = some v → values right = some u → v.type = u.type →
      EqualsName values left right (.ok (v.sameValue u))

/-- Whether a name, which has to stand for a boolean, stands for a true one. -/
inductive IsTrue (values : Values) (name : Text) : Except ResolveError Bool → Prop where
  | absent : values name = none → IsTrue values name (.error (.unresolved name))
  | mismatch {v : Scalar} : values name = some v → v.type ≠ .boolean →
      IsTrue values name (.error (.typeMismatch (.notCondition name)))
  | flag {b : Bool} : values name = some (.boolean b) → IsTrue values name (.ok b)

/-- What a shape stands for where a type is wanted. A choice fails as its condition does, and its
branch comes into play only when the condition has been answered. -/
inductive Yields (values : Values) (wanted : ValueType) :
    Shape → Except ResolveError Scalar → Prop where
  | identity {name : Text} {r : Except ResolveError Scalar} : Reads values wanted name r →
      Yields values wanted (.identity name) r
  | equality {name rhs : Text} {c : Bool} : Equals values name rhs (.ok c) →
      Yields values wanted (.equality name rhs) (.ok (.boolean c))
  | equalityFails {name rhs : Text} {e : ResolveError} : Equals values name rhs (.error e) →
      Yields values wanted (.equality name rhs) (.error e)
  | dualEquality {left right : Text} {c : Bool} : EqualsName values left right (.ok c) →
      Yields values wanted (.dualEquality left right) (.ok (.boolean c))
  | dualEqualityFails {left right : Text} {e : ResolveError} :
      EqualsName values left right (.error e) →
      Yields values wanted (.dualEquality left right) (.error e)
  | ternary {name rhs x y : Text} {c : Bool} {r : Except ResolveError Scalar} :
      Equals values name rhs (.ok c) → Takes values wanted (if c then x else y) r →
      Yields values wanted (.ternary name rhs x y) r
  | ternaryFails {name rhs x y : Text} {e : ResolveError} : Equals values name rhs (.error e) →
      Yields values wanted (.ternary name rhs x y) (.error e)
  | literalTernary {name x y : Text} {c : Bool} {r : Except ResolveError Scalar} :
      IsTrue values name (.ok c) → Takes values wanted (if c then x else y) r →
      Yields values wanted (.literalTernary name x y) r
  | literalTernaryFails {name x y : Text} {e : ResolveError} : IsTrue values name (.error e) →
      Yields values wanted (.literalTernary name x y) (.error e)

end Values

/-- Rules that leave nothing out and that an outcome obeys describe the outcome exactly. -/
theorem eq_iff_of_rules {α : Type} {P : α → Prop} {a : α} (hsound : ∀ r, P r → a = r)
    (htotal : ∃ r, P r) (r : α) : a = r ↔ P r := by
  constructor
  · intro h
    obtain ⟨r', hr'⟩ := htotal
    rw [← h, hsound r' hr']
    exact hr'
  · exact hsound r

theorem Literal.coerce_eq_ok_iff_read? {wanted : ValueType} {t : Text} {v : Scalar} :
    Literal.coerce wanted t = .ok v ↔ Literal.read? wanted t = some v := by
  rw [coerce_eq_ok_iff]
  exact and_iff_right_of_imp reference?_of_read?

namespace Values

variable {values : Values} {wanted : ValueType} {name rhs left right branch : Text}

theorem table_of_none (h : values name = none) : values.table name = none := by
  simp [table, h]

theorem table_of_some {v : Scalar} (h : values name = some v) :
    values.table name = some (.ofScalar v) := by
  simp [table, h]

theorem value_eq_iff (r : Except ResolveError Scalar) :
    values.table.value wanted name = r ↔ values.Reads wanted name r := by
  refine eq_iff_of_rules (fun r h => ?_) ?_ r
  · cases h with
    | absent h => exact Table.value_eq_error_iff.mpr (.inl ⟨table_of_none h, rfl⟩)
    | mismatch h hne =>
      refine Table.value_eq_error_iff.mpr (.inr ⟨_, table_of_some h, ?_⟩)
      refine Parameter.readAs_eq_error_iff.mpr (.inl ⟨?_, ?_⟩)
      · rw [Parameter.isLegal_ofScalar]
        exact decide_eq_false hne
      · rw [Parameter.legalTypes_ofScalar]
    | value h htype =>
      subst htype
      refine Table.value_eq_ok_iff.mpr ⟨_, table_of_some h, ?_, Parameter.access_ofScalar _⟩
      rw [Parameter.isLegal_ofScalar]
      exact decide_eq_true rfl
  · cases h : values name with
    | none => exact ⟨_, .absent h⟩
    | some v =>
      by_cases htype : v.type = wanted
      · exact ⟨_, .value h htype⟩
      · exact ⟨_, .mismatch h htype⟩

theorem branchValue_eq_iff (r : Except ResolveError Scalar) :
    values.table.branchValue wanted branch = r ↔ values.Takes wanted branch r := by
  refine eq_iff_of_rules (fun r h => ?_) ?_ r
  · unfold Table.branchValue
    cases h with
    | reference href h => simp only [href, (value_eq_iff r).mpr h]
    | literal href h => simp only [href, Literal.coerce_eq_ok_iff_read?.mpr h]
    | malformed href h =>
      simp only [href]
      exact Literal.coerce_eq_error_iff.mpr
        ⟨fun v hv => by simp [Literal.coerce_eq_ok_iff_read?.mp hv] at h, rfl⟩
  · cases href : reference? branch with
    | some name => exact ⟨_, .reference href ((value_eq_iff _).mp rfl)⟩
    | none =>
      cases h : Literal.read? wanted branch with
      | none => exact ⟨_, .malformed href h⟩
      | some v => exact ⟨_, .literal href h⟩

theorem evaluateEquality_eq_iff (r : Except ResolveError Bool) :
    (evaluateEquality values.table name rhs).outcome = r ↔ values.Equals name rhs r := by
  refine eq_iff_of_rules (fun r h => ?_) ?_ r
  · cases h with
    | absent h => exact evaluateEquality_eq_error_iff.mpr (.absent (table_of_none h))
    | @malformed v h hm =>
      refine evaluateEquality_eq_error_iff.mpr (.malformed (table_of_some h)
        (Parameter.head?_legalTypes_ofScalar v) (Parameter.access_ofScalar v) fun u hu => ?_)
      rw [Literal.coerce_eq_ok_iff_read?.mp hu] at hm
      contradiction
    | compared h hu =>
      exact evaluateEquality_of_value (table_of_some h) (Literal.coerce_eq_ok_iff_read?.mpr hu)
  · cases h : values name with
    | none => exact ⟨_, .absent h⟩
    | some v =>
      cases hu : Literal.read? v.type rhs with
      | none => exact ⟨_, .malformed h hu⟩
      | some u => exact ⟨_, .compared h hu⟩

theorem evaluateDualEquality_eq_iff (r : Except ResolveError Bool) :
    (evaluateDualEquality values.table left right).outcome = r ↔
      values.EqualsName left right r := by
  refine eq_iff_of_rules (fun r h => ?_) ?_ r
  · cases h with
    | absentLeft h => exact evaluateDualEquality_eq_error_iff.mpr (.absentLeft (table_of_none h))
    | absentRight hl hr =>
      exact evaluateDualEquality_eq_error_iff.mpr
        (.absentRight (table_of_some hl) (table_of_none hr))
    | @incomparable v u hl hr hne =>
      refine evaluateDualEquality_eq_error_iff.mpr (.incomparable (table_of_some hl)
        (table_of_some hr) (Parameter.head?_legalTypes_ofScalar v) ?_)
      rw [Parameter.isLegal_ofScalar]
      exact decide_eq_false fun h => hne h.symm
    | @compared v u hl hr htype =>
      refine evaluateDualEquality_eq_ok_iff.mpr ⟨_, _, v.type, v, u, table_of_some hl,
        table_of_some hr, Parameter.head?_legalTypes_ofScalar v, ?_, Parameter.access_ofScalar v, ?_, rfl⟩
      · rw [Parameter.isLegal_ofScalar]
        exact decide_eq_true htype.symm
      · rw [htype]
        exact Parameter.access_ofScalar u
  · cases hl : values left with
    | none => exact ⟨_, .absentLeft hl⟩
    | some v =>
      cases hr : values right with
      | none => exact ⟨_, .absentRight hl hr⟩
      | some u =>
        by_cases htype : v.type = u.type
        · exact ⟨_, .compared hl hr htype⟩
        · exact ⟨_, .incomparable hl hr htype⟩

theorem condition_eq_iff (r : Except ResolveError Bool) :
    condition values.table name = r ↔ values.IsTrue name r := by
  refine eq_iff_of_rules (fun r h => ?_) ?_ r
  · cases h with
    | absent h => exact condition_eq_error_iff.mpr (.absent (table_of_none h))
    | @mismatch v h hne =>
      have hlegal : (Parameter.ofScalar v).isLegal .boolean = false := by
        rw [Parameter.isLegal_ofScalar]
        exact decide_eq_false hne
      exact condition_eq_error_iff.mpr (.notCondition (table_of_some h) hlegal)
    | flag h => exact condition_eq_ok_iff.mpr ⟨_, table_of_some h, rfl, rfl⟩
  · cases h : values name with
    | none => exact ⟨_, .absent h⟩
    | some v =>
      cases v with
      | boolean b => exact ⟨_, .flag h⟩
      | string s => exact ⟨_, .mismatch h (by simp [Scalar.type])⟩
      | number x => exact ⟨_, .mismatch h (by simp [Scalar.type])⟩

/-- Over a table of values evaluation follows the rules, and the rules say all there is. -/
theorem evaluate_eq_iff {s : Shape} (r : Except ResolveError Scalar) :
    (evaluate values.table wanted s).outcome = r ↔ values.Yields wanted s r := by
  constructor
  · rintro rfl
    cases s with
    | identity name => exact .identity ((value_eq_iff _).mp rfl)
    | equality name rhs =>
      rw [evaluate_equality_outcome]
      cases hc : (evaluateEquality values.table name rhs).outcome with
      | error e => exact .equalityFails ((evaluateEquality_eq_iff _).mp hc)
      | ok c => exact .equality ((evaluateEquality_eq_iff _).mp hc)
    | dualEquality left right =>
      rw [evaluate_dualEquality_outcome]
      cases hc : (evaluateDualEquality values.table left right).outcome with
      | error e => exact .dualEqualityFails ((evaluateDualEquality_eq_iff _).mp hc)
      | ok c => exact .dualEquality ((evaluateDualEquality_eq_iff _).mp hc)
    | ternary name rhs x y =>
      rw [evaluate, evaluateTernary_outcome]
      cases hc : (evaluateEquality values.table name rhs).outcome with
      | error e => exact .ternaryFails ((evaluateEquality_eq_iff _).mp hc)
      | ok c => exact .ternary ((evaluateEquality_eq_iff _).mp hc) ((branchValue_eq_iff _).mp rfl)
    | literalTernary name x y =>
      rw [evaluate, evaluateLiteralTernary_outcome]
      cases hc : condition values.table name with
      | error e => exact .literalTernaryFails ((condition_eq_iff _).mp hc)
      | ok c => exact .literalTernary ((condition_eq_iff _).mp hc) ((branchValue_eq_iff _).mp rfl)
  · intro h
    cases h with
    | identity h => exact (value_eq_iff r).mpr h
    | equality hc | equalityFails hc =>
      rw [evaluate_equality_outcome, (evaluateEquality_eq_iff _).mpr hc]
      rfl
    | dualEquality hc | dualEqualityFails hc =>
      rw [evaluate_dualEquality_outcome, (evaluateDualEquality_eq_iff _).mpr hc]
      rfl
    | ternary hc h =>
      rw [evaluate, evaluateTernary_outcome, (evaluateEquality_eq_iff _).mpr hc]
      exact (branchValue_eq_iff r).mpr h
    | ternaryFails hc =>
      rw [evaluate, evaluateTernary_outcome, (evaluateEquality_eq_iff _).mpr hc]
      rfl
    | literalTernary hc h =>
      rw [evaluate, evaluateLiteralTernary_outcome, (condition_eq_iff _).mpr hc]
      exact (branchValue_eq_iff r).mpr h
    | literalTernaryFails hc =>
      rw [evaluate, evaluateLiteralTernary_outcome, (condition_eq_iff _).mpr hc]
      rfl

section Faults

variable {e : ResolveError}

theorem Takes.kind_of_error (h : values.Takes wanted branch (.error e)) :
    e.kind ≠ .structural ∧ e.kind ≠ .noLegalType := by
  cases h with
  | reference _ h => cases h <;> simp [ResolveError.kind]
  | malformed => simp [ResolveError.kind]

theorem Equals.kind_of_error (h : values.Equals name rhs (.error e)) :
    e.kind ≠ .structural ∧ e.kind ≠ .noLegalType := by
  cases h <;> simp [ResolveError.kind]

/-- A shape that has been read does not fail for want of one, and a value always has a type. -/
theorem Yields.kind_of_error {s : Shape} (h : values.Yields wanted s (.error e)) :
    e.kind ≠ .structural ∧ e.kind ≠ .noLegalType := by
  cases h with
  | identity h => cases h <;> simp [ResolveError.kind]
  | equalityFails hc => exact hc.kind_of_error
  | dualEqualityFails hc => cases hc <;> simp [ResolveError.kind]
  | ternary _ h => exact h.kind_of_error
  | ternaryFails hc => exact hc.kind_of_error
  | literalTernary _ h => exact h.kind_of_error
  | literalTernaryFails hc => cases hc <;> simp [ResolveError.kind]

end Faults

end Values

/-- No warning is among the records. -/
def Traced.IsQuiet {α : Type} (x : Traced α) : Prop := ∀ r ∈ x.records, r.level ≠ .warn

namespace Traced

variable {α β : Type}

theorem isQuiet_pure (a : α) : (pure a : Traced α).IsQuiet := by
  simp [IsQuiet]

theorem isQuiet_ofExcept (r : Except ResolveError α) : (ofExcept r).IsQuiet := by
  simp [IsQuiet, ofExcept]

theorem isQuiet_fail (e : ResolveError) : (fail e : Traced α).IsQuiet := by
  simp [IsQuiet, fail]

theorem isQuiet_note {r : Record} (h : r.level ≠ .warn) : (note r).IsQuiet := by
  simpa [IsQuiet, note] using h

theorem isQuiet_bind {x : Traced α} {f : α → Traced β} (hx : x.IsQuiet)
    (hf : ∀ a, x.outcome = .ok a → (f a).IsQuiet) : (x >>= f).IsQuiet := by
  cases h : x.outcome with
  | ok a =>
    rw [bind_of_ok h]
    intro r hr
    exact (List.mem_append.mp hr).elim (hx r) (hf a h r)
  | error e =>
    rw [bind_of_error h]
    exact hx

end Traced

section Quiet

variable {values : Values} {wanted : ValueType} {name rhs left right x y : Text}

theorem Parameter.inferType_ofScalar (name : Text) (v : Scalar) :
    (ofScalar v).inferType name = pure v.type := by
  rw [inferType, legalTypes_ofScalar]

theorem Values.exists_of_table_eq_some {p : Parameter} (h : values.table name = some p) :
    ∃ v, p = .ofScalar v := by
  obtain ⟨v, -, rfl⟩ := Option.map_eq_some_iff.mp h
  exact ⟨v, rfl⟩

theorem isQuiet_inferType {p : Parameter} (h : values.table name = some p) (n : Text) :
    (p.inferType n).IsQuiet := by
  obtain ⟨v, rfl⟩ := Values.exists_of_table_eq_some h
  rw [Parameter.inferType_ofScalar]
  exact Traced.isQuiet_pure _

theorem isQuiet_evaluateEquality : (evaluateEquality values.table name rhs).IsQuiet := by
  refine Traced.isQuiet_bind (Traced.isQuiet_ofExcept _) fun p hp => ?_
  refine Traced.isQuiet_bind (isQuiet_inferType (Table.find_eq_ok_iff.mp hp) name) fun type _ => ?_
  refine Traced.isQuiet_bind (Traced.isQuiet_ofExcept _) fun u _ => ?_
  refine Traced.isQuiet_bind (Traced.isQuiet_ofExcept _) fun v _ => ?_
  refine Traced.isQuiet_bind (Traced.isQuiet_note (by simp [Record.level])) fun _ _ => ?_
  exact Traced.isQuiet_pure _

theorem isQuiet_evaluateDualEquality : (evaluateDualEquality values.table left right).IsQuiet := by
  refine Traced.isQuiet_bind (Traced.isQuiet_ofExcept _) fun l hl => ?_
  refine Traced.isQuiet_bind (Traced.isQuiet_ofExcept _) fun r _ => ?_
  refine Traced.isQuiet_bind (isQuiet_inferType (Table.find_eq_ok_iff.mp hl) left) fun type _ => ?_
  split
  · refine Traced.isQuiet_bind (Traced.isQuiet_ofExcept _) fun u _ => ?_
    refine Traced.isQuiet_bind (Traced.isQuiet_ofExcept _) fun v _ => ?_
    refine Traced.isQuiet_bind (Traced.isQuiet_note (by simp [Record.level])) fun _ _ => ?_
    exact Traced.isQuiet_pure _
  · exact Traced.isQuiet_fail _

theorem isQuiet_evaluate (s : Shape) : (evaluate values.table wanted s).IsQuiet := by
  cases s with
  | identity name => exact Traced.isQuiet_ofExcept _
  | equality name rhs =>
    exact Traced.isQuiet_bind isQuiet_evaluateEquality fun _ _ => Traced.isQuiet_pure _
  | dualEquality left right =>
    exact Traced.isQuiet_bind isQuiet_evaluateDualEquality fun _ _ => Traced.isQuiet_pure _
  | ternary name rhs x y =>
    refine Traced.isQuiet_bind isQuiet_evaluateEquality fun holds _ => ?_
    refine Traced.isQuiet_bind (Traced.isQuiet_note (by simp [Record.level])) fun _ _ => ?_
    exact Traced.isQuiet_ofExcept _
  | literalTernary name x y =>
    refine Traced.isQuiet_bind (Traced.isQuiet_ofExcept _) fun holds _ => ?_
    refine Traced.isQuiet_bind (Traced.isQuiet_note (by simp [Record.level])) fun _ _ => ?_
    exact Traced.isQuiet_ofExcept _

theorem isQuiet_resolve (e : Text) : (resolve values.table wanted e).IsQuiet := by
  have hclassify : (classify e).IsQuiet := by
    unfold classify
    split
    · simp [Traced.IsQuiet, Record.level]
    · exact Traced.isQuiet_fail _
  refine Traced.isQuiet_bind hclassify fun s _ r hr => ?_
  rcases List.mem_append.mp hr with hr | hr
  · exact isQuiet_evaluate s r hr
  · obtain rfl := List.mem_singleton.mp hr
    cases (evaluate values.table wanted s).outcome <;> simp [closing, Record.level]

end Quiet

/-- Over a table of values no type is missing and nothing is worth a warning, an expression is
refused exactly if it has no shape, and the outcome of one that has a shape is what the rules for
names, values and literals say of the shape. Values that the rules compare are equal if they stand
for the same text, number or truth value. -/
theorem outcome_law (values : Values) (wanted : ValueType) (e : Text) :
    (∀ n, (resolve values.table wanted e).outcome ≠ .error (.noLegalType n)) ∧
    (∀ r ∈ (resolve values.table wanted e).records, r.level ≠ .warn) ∧
    (∀ t fault, (resolve values.table wanted e).outcome = .error (.structural t fault) ↔
      t = e ∧ fault = .unsupported ∧ ∃ err, (classify e).outcome = .error err) ∧
    (∀ s, (classify e).outcome = .ok s → ∀ r,
      (resolve values.table wanted e).outcome = r ↔ values.Yields wanted s r) ∧
    ∀ u v : Scalar, u.sameValue v = true ↔ ∃ m, u.meaning? = some m ∧ v.meaning? = some m := by
  have hresolve := resolve_outcome values.table wanted e
  have hclassify := classify_outcome e
  cases hs : classify? e with
  | none =>
    rw [hs] at hresolve hclassify
    refine ⟨?_, isQuiet_resolve e, ?_, ?_, fun u v => Scalar.sameValue_iff⟩
    · simp [hresolve]
    · intro t fault
      simp [hresolve, hclassify, eq_comm]
    · simp [hclassify]
  | some s =>
    rw [hs] at hresolve hclassify
    have hlaw (r : Except ResolveError Scalar) :
        (resolve values.table wanted e).outcome = r ↔ values.Yields wanted s r := by
      rw [hresolve]
      exact Values.evaluate_eq_iff r
    refine ⟨?_, isQuiet_resolve e, ?_, ?_, fun u v => Scalar.sameValue_iff⟩
    · intro n h
      exact ((hlaw _).mp h).kind_of_error.2 rfl
    · intro t fault
      refine iff_of_false (fun h => ((hlaw _).mp h).kind_of_error.1 rfl) ?_
      simp [hclassify]
    · intro t ht r
      obtain rfl : s = t := Except.ok.inj (hclassify.symm.trans ht)
      exact hlaw r

/-- A choice of which both the condition and the branch would fail, the condition for its literal. -/
theorem outcome_law_two_faults :
    let values : Values := (Bindings.empty.set ['a'] (.string ['x'])).find?
    let e := (openMark ++ " params.a == 1 ? params.b : 2 ".toList ++ closeMark : Text)
    (classify e).outcome = .ok (.ternary ['a'] ['1'] "params.b".toList ['2']) ∧
      values.Yields .number (.ternary ['a'] ['1'] "params.b".toList ['2'])
        (.error (.malformed ['1'] .string)) := by
  intro values e
  have hs : (classify e).outcome = .ok (.ternary ['a'] ['1'] "params.b".toList ['2']) := by
    decide +kernel
  obtain ⟨-, -, -, hlaw, -⟩ := outcome_law values .number e
  exact ⟨hs, (hlaw _ hs _).mp (by decide +kernel)⟩

end ParameterTemplates
