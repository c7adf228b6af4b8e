import ParameterTemplates.Proofs.Outcome

/-! How conditions fail: one rule for each fault, which says what was found before it. The rules and
the answers of a condition leave nothing out, so no fault hides another. -/
namespace ParameterTemplates
open Template

theorem Parameter.isLegal_of_head? {p : Parameter} {type : ValueType}
    (h : p.legalTypes.head? = some type) : p.isLegal type = true := by
  have hmem : type ∈ p.legalTypes := List.mem_of_mem_head? h
  exact (List.mem_filter.mp hmem).2

theorem Literal.coerce_eq_error_iff {wanted : ValueType} {t : Text} {e : ResolveError} :
    Literal.coerce wanted t = .error e ↔
      (∀ v, Literal.coerce wanted t ≠ .ok v) ∧ e = .malformed t wanted := by
  constructor
  · intro h
    exact ⟨by simp [h], Literal.eq_malformed_of_coerce h⟩
  · intro ⟨hno, he⟩
    cases h : Literal.coerce wanted t with
    | ok v => exact absurd h (hno v)
    | error e' => rw [he, Literal.eq_malformed_of_coerce h]

/-- How the comparison of a parameter with a literal fails. -/
inductive EqualityFault (table : Table) (name rhs : Text) : ResolveError → Prop where
  | absent : table name = none → EqualityFault table name rhs (.unresolved name)
  | untyped {p : Parameter} : table name = some p → p.legalTypes = [] →
      EqualityFault table name rhs (.noLegalType name)
  | valueless {p : Parameter} {type : ValueType} : table name = some p →
      p.legalTypes.head? = some type → p.access type = none →
      EqualityFault table name rhs (.typeMismatch (.noValue name type))
  | malformed {p : Parameter} {type : ValueType} {v : Scalar} : table name = some p →
      p.legalTypes.head? = some type → p.access type = some v →
      (∀ u, Literal.coerce type rhs ≠ .ok u) → EqualityFault table name rhs (.malformed rhs type)

/-- How the comparison of two parameters fails. -/
inductive DualEqualityFault (table : Table) (left right : Text) : ResolveError → Prop where
  | absentLeft : table left = none → DualEqualityFault table left right (.unresolved left)
  | absentRight {l : Parameter} : table left = some l → table right = none →
      DualEqualityFault table left right (.unresolved right)
  | untyped {l r : Parameter} : table left = some l → table right = some r → l.legalTypes = [] →
      DualEqualityFault table left right (.noLegalType left)
  | incomparable {l r : Parameter} {type : ValueType} : table left = some l →
      table right = some r → l.legalTypes.head? = some type → r.isLegal type = false →
      DualEqualityFault table left right (.typeMismatch (.incomparable left type right))
  | valuelessLeft {l r : Parameter} {type : ValueType} : table left = some l →
      table right = some r → l.legalTypes.head? = some type → r.isLegal type = true →
      l.access type = none → DualEqualityFault table left right (.typeMismatch (.noValue left type))
  | valuelessRight {l r : Parameter} {type : ValueType} {v : Scalar} : table left = some l →
      table right = some r → l.legalTypes.head? = some type → r.isLegal type = true →
      l.access type = some v → r.access type = none →
      DualEqualityFault table left right (.typeMismatch (.noValue right type))

/-- How a parameter fails to be a condition. -/
inductive ConditionFault (table : Table) (name : Text) : ResolveError → Prop where
  | absent : table name = none → ConditionFault table name (.unresolved name)
  | notCondition {p : Parameter} : table name = some p → p.legalBoolean = false →
      ConditionFault table name (.typeMismatch (.notCondition name))
  | valueless {p : Parameter} : table name = some p → p.legalBoolean = true → p.asBoolean = none →
      ConditionFault table name (.typeMismatch (.noValue name .boolean))

section Conditions

variable {table : Table} {name rhs left right : Text} {e : ResolveError}

theorem evaluateEquality_eq_error_iff :
    (evaluateEquality table name rhs).outcome = .error e ↔ EqualityFault table name rhs e := by
  simp only [evaluateEquality, Traced.outcome_bind_eq_error, Traced.outcome_ofExcept,
    Traced.outcome_note, Traced.outcome_pure, Table.find_eq_error_iff, Table.find_eq_ok_iff,
    Parameter.inferType_eq_error_iff, Parameter.inferType_eq_ok_iff, Parameter.readAs_eq_error_iff,
    Parameter.readAs_eq_ok_iff, Literal.coerce_eq_error_iff, reduceCtorEq, and_false, exists_false,
    or_false]
  constructor
  · intro h
    obtain ⟨hp, rfl⟩ | ⟨p, hp, ⟨hl, rfl⟩ | ⟨type, ht, h⟩⟩ := h
    · exact .absent hp
    · exact .untyped hp hl
    · have hlegal := Parameter.isLegal_of_head? ht
      obtain (⟨hno, -⟩ | ⟨-, hv, rfl⟩) | ⟨v, ⟨-, hv⟩, hm, rfl⟩ := h
      · simp [hlegal] at hno
      · exact .valueless hp ht hv
      · exact .malformed hp ht hv hm
  · intro h
    cases h with
    | absent hp => exact .inl ⟨hp, rfl⟩
    | @untyped p hp hl => exact .inr ⟨p, hp, .inl ⟨hl, rfl⟩⟩
    | @valueless p type hp ht hv =>
      exact .inr ⟨p, hp, .inr ⟨type, ht, .inl (.inr ⟨p.isLegal_of_head? ht, hv, rfl⟩)⟩⟩
    | @malformed p type v hp ht hv hm =>
      exact .inr ⟨p, hp, .inr ⟨type, ht, .inr ⟨v, ⟨p.isLegal_of_head? ht, hv⟩, hm, rfl⟩⟩⟩

theorem evaluateDualEquality_eq_ok_iff {c : Bool} :
    (evaluateDualEquality table left right).outcome = .ok c ↔
      ∃ l r type u v, table left = some l ∧ table right = some r ∧
        l.legalTypes.head? = some type ∧ r.isLegal type = true ∧ l.access type = some u ∧
        r.access type = some v ∧ u.sameValue v = c := by
  simp only [evaluateDualEquality, Traced.outcome_bind_eq_ok, Traced.outcome_ofExcept,
    Table.find_eq_ok_iff, Parameter.inferType_eq_ok_iff]
  constructor
  · intro h
    obtain ⟨l, hl, r, hr, type, ht, h⟩ := h
    split at h
    · next hlegal =>
      simp only [Traced.outcome_bind_eq_ok, Traced.outcome_ofExcept, Traced.outcome_note,
        Traced.outcome_pure, Parameter.readAs_eq_ok_iff, Except.ok.injEq] at h
      obtain ⟨u, ⟨-, hu⟩, v, ⟨-, hv⟩, -, -, hc⟩ := h
      exact ⟨l, r, type, u, v, hl, hr, ht, hlegal, hu, hv, hc⟩
    · contradiction
  · intro h
    obtain ⟨l, r, type, u, v, hl, hr, ht, hlegal, hu, hv, hc⟩ := h
    refine ⟨l, hl, r, hr, type, ht, ?_⟩
    rw [if_pos hlegal]
    simp [Traced.outcome_bind_eq_ok, Parameter.readAs_eq_ok_iff, l.isLegal_of_head? ht, hlegal, hu,
      hv, hc]

theorem evaluateDualEquality_eq_error_iff :
    (evaluateDualEquality table left right).outcome = .error e ↔
      DualEqualityFault table left right e := by
  simp only [evaluateDualEquality, Traced.outcome_bind_eq_error, Traced.outcome_ofExcept,
    Table.find_eq_error_iff, Table.find_eq_ok_iff, Parameter.inferType_eq_error_iff,
    Parameter.inferType_eq_ok_iff]
  constructor
  · intro h
    obtain ⟨hl, rfl⟩ | ⟨l, hl, ⟨hr, rfl⟩ | ⟨r, hr, ⟨ht, rfl⟩ | ⟨type, ht, h⟩⟩⟩ := h
    · exact .absentLeft hl
    · exact .absentRight hl hr
    · exact .untyped hl hr ht
    · split at h
      · next hlegal =>
        simp only [Traced.outcome_bind_eq_error, Traced.outcome_ofExcept, Traced.outcome_note,
          Traced.outcome_pure, Parameter.readAs_eq_error_iff, Parameter.readAs_eq_ok_iff,
          l.isLegal_of_head? ht, hlegal, reduceCtorEq, and_false, exists_false, or_false,
          false_and, false_or, true_and] at h
        obtain ⟨hu, rfl⟩ | ⟨u, hu, hv, rfl⟩ := h
        · exact .valuelessLeft hl hr ht hlegal hu
        · exact .valuelessRight hl hr ht hlegal hu hv
      · next hlegal =>
        obtain rfl := Except.error.inj h
        exact .incomparable hl hr ht (Bool.eq_false_iff.mpr hlegal)
  · intro h
    cases h with
    | absentLeft hl => exact .inl ⟨hl, rfl⟩
    | @absentRight l hl hr => exact .inr ⟨l, hl, .inl ⟨hr, rfl⟩⟩
    | @untyped l r hl hr ht => exact .inr ⟨l, hl, .inr ⟨r, hr, .inl ⟨ht, rfl⟩⟩⟩
    | @incomparable l r type hl hr ht hlegal =>
      exact .inr ⟨l, hl, .inr ⟨r, hr, .inr ⟨type, ht, by simp [hlegal]⟩⟩⟩
    | @valuelessLeft l r type hl hr ht hlegal hu =>
      refine .inr ⟨l, hl, .inr ⟨r, hr, .inr ⟨type, ht, ?_⟩⟩⟩
      simp [hlegal, Traced.outcome_bind_eq_error, Parameter.readAs_eq_error_iff,
        l.isLegal_of_head? ht, hu]
    | @valuelessRight l r type v hl hr ht hlegal hu hv =>
      refine .inr ⟨l, hl, .inr ⟨r, hr, .inr ⟨type, ht, ?_⟩⟩⟩
      simp [hlegal, Traced.outcome_bind_eq_error, Parameter.readAs_eq_error_iff,
        Parameter.readAs_eq_ok_iff, l.isLegal_of_head? ht, hu, hv]

theorem condition_eq_ok_iff {c : Bool} : condition table name = .ok c ↔
    ∃ p, table name = some p ∧ p.legalBoolean = true ∧ p.asBoolean = some c := by
  unfold condition Table.find
  cases table name with
  | none => simp [Bind.bind, Except.bind]
  | some p => cases hl : p.legalBoolean <;> cases hb : p.asBoolean <;>
      simp [Bind.bind, Except.bind, hl, hb]

theorem condition_eq_error_iff :
    condition table name = .error e ↔ ConditionFault table name e := by
  constructor
  · intro h
    unfold condition Table.find at h
    cases hp : table name with
    | none =>
      rw [hp] at h
      obtain rfl := Except.error.inj h
      exact .absent hp
    | some p =>
      simp only [hp, Bind.bind, Except.bind] at h
      split at h
      · next hl =>
        split at h
        · contradiction
        · next hb =>
          obtain rfl := Except.error.inj h
          exact .valueless hp hl hb
      · next hl =>
        obtain rfl := Except.error.inj h
        exact .notCondition hp (Bool.eq_false_iff.mpr hl)
  · intro h
    unfold condition Table.find
    cases h with
    | absent hp => simp [hp, Bind.bind, Except.bind]
    | notCondition hp hl => simp [hp, hl, Bind.bind, Except.bind]
    | valueless hp hl hb => simp [hp, hl, hb, Bind.bind, Except.bind]

end Conditions

end ParameterTemplates
