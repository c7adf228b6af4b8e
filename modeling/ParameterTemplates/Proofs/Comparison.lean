import Mathlib.Logic.Function.Basic
import ParameterTemplates.Proofs.Equivalence

/-! Comparisons over any table, whatever its parameters say of their types and whatever they yield.
The first legal type of the left parameter decides as what is compared; with that type in hand one
equation for each comparison says which of several faults is reported. -/
namespace ParameterTemplates

namespace Parameter

/-- The first type, in the order string, number, boolean, that is legal for a parameter. -/
inductive FirstLegal (p : Parameter) : ValueType → Prop where
  | string : p.legalString = true → FirstLegal p .string
  | number : p.legalString = false → p.legalNumber = true → FirstLegal p .number
  | boolean : p.legalString = false → p.legalNumber = false → p.legalBoolean = true →
      FirstLegal p .boolean

variable {p : Parameter} {type : ValueType}

theorem head?_legalTypes (p : Parameter) : p.legalTypes.head? =
    if p.legalString then some .string
    else if p.legalNumber then some .number
    else if p.legalBoolean then some .boolean
    else none := by
  unfold legalTypes ValueType.priority
  cases hs : p.legalString <;> cases hn : p.legalNumber <;> cases hb : p.legalBoolean <;>
    simp [isLegal, hs, hn, hb]

theorem firstLegal_iff : p.FirstLegal type ↔ p.legalTypes.head? = some type := by
  rw [head?_legalTypes]
  constructor
  · intro h
    cases h with
    | string hs => simp [hs]
    | number hs hn => simp [hs, hn]
    | boolean hs hn hb => simp [hs, hn, hb]
  · intro h
    split at h
    · next hs =>
      obtain rfl := Option.some.inj h
      exact .string hs
    · next hs =>
      have hs := Bool.eq_false_iff.mpr hs
      split at h
      · next hn =>
        obtain rfl := Option.some.inj h
        exact .number hs hn
      · next hn =>
        obtain ⟨hb, h⟩ := Option.ite_none_right_eq_some.mp h
        obtain rfl := Option.some.inj h
        exact .boolean hs (Bool.eq_false_iff.mpr hn) hb

theorem FirstLegal.isLegal (h : p.FirstLegal type) : p.isLegal type = true :=
  p.isLegal_of_head? (firstLegal_iff.mp h)

theorem legalTypes_eq_nil_iff : p.legalTypes = [] ↔ ∀ type, p.isLegal type = false := by
  have hall : ∀ type, type ∈ ValueType.priority := by
    intro type
    cases type <;> decide
  rw [legalTypes, List.filter_eq_nil_iff]
  exact forall_congr' fun type => by simp [hall type]

end Parameter

section Outcomes

variable {table : Table} {name rhs left right : Text} {p l r : Parameter} {type : ValueType}

theorem evaluateEquality_eq_noLegalType_iff (hp : table name = some p) :
    (evaluateEquality table name rhs).outcome = .error (.noLegalType name) ↔
      ∀ type, p.isLegal type = false := by
  rw [evaluateEquality_eq_error_iff, ← Parameter.legalTypes_eq_nil_iff]
  constructor
  · intro h
    cases h with
    | untyped hp' hl =>
      obtain rfl := Option.some.inj (hp.symm.trans hp')
      exact hl
  · exact .untyped hp

theorem evaluateDualEquality_eq_noLegalType_iff (hl : table left = some l)
    (hr : table right = some r) :
    (evaluateDualEquality table left right).outcome = .error (.noLegalType left) ↔
      ∀ type, l.isLegal type = false := by
  rw [evaluateDualEquality_eq_error_iff, ← Parameter.legalTypes_eq_nil_iff]
  constructor
  · intro h
    cases h with
    | untyped hl' _ hnone =>
      obtain rfl := Option.some.inj (hl.symm.trans hl')
      exact hnone
  · exact .untyped hl hr

/-- A parameter without a value is at fault before a literal that is malformed. -/
theorem evaluateEquality_outcome_of_firstLegal (hp : table name = some p)
    (ht : p.FirstLegal type) :
    (evaluateEquality table name rhs).outcome =
      match p.access type, Literal.read? type rhs with
      | none, _ => .error (.typeMismatch (.noValue name type))
      | some _, none => .error (.malformed rhs type)
      | some u, some v => .ok (u.sameValue v) := by
  have hfirst := Parameter.firstLegal_iff.mp ht
  cases hu : p.access type with
  | none => exact evaluateEquality_eq_error_iff.mpr (.valueless hp hfirst hu)
  | some u =>
    cases hv : Literal.read? type rhs with
    | none =>
      apply evaluateEquality_eq_error_iff.mpr
      apply EqualityFault.malformed hp hfirst hu
      intro v hv'
      rw [Literal.coerce_eq_ok_iff_read?, hv] at hv'
      contradiction
    | some v =>
      apply evaluateEquality_eq_ok_iff.mpr
      exact ⟨p, type, u, v, hp, hfirst, Parameter.readAs_eq_ok_iff.mpr ⟨ht.isLegal, hu⟩,
        Literal.coerce_eq_ok_iff_read?.mpr hv, rfl⟩

/-- The right parameter has to be legal as the type before a value of either is missed. -/
theorem evaluateDualEquality_outcome_of_firstLegal (hl : table left = some l)
    (hr : table right = some r) (ht : l.FirstLegal type) :
    (evaluateDualEquality table left right).outcome =
      if r.isLegal type then
        match l.access type, r.access type with
        | none, _ => .error (.typeMismatch (.noValue left type))
        | some _, none => .error (.typeMismatch (.noValue right type))
        | some u, some v => .ok (u.sameValue v)
      else .error (.typeMismatch (.incomparable left type right)) := by
  have hfirst := Parameter.firstLegal_iff.mp ht
  split
  · next hlegal =>
    cases hu : l.access type with
    | none =>
      exact evaluateDualEquality_eq_error_iff.mpr (.valuelessLeft hl hr hfirst hlegal hu)
    | some u =>
      cases hv : r.access type with
      | none =>
        exact evaluateDualEquality_eq_error_iff.mpr (.valuelessRight hl hr hfirst hlegal hu hv)
      | some v =>
        exact evaluateDualEquality_eq_ok_iff.mpr
          ⟨l, r, type, u, v, hl, hr, hfirst, hlegal, hu, hv, rfl⟩
  · next hlegal =>
    exact evaluateDualEquality_eq_error_iff.mpr
      (.incomparable hl hr hfirst (Bool.eq_false_iff.mpr hlegal))

theorem evaluateEquality_eq_typeMismatch_iff (hp : table name = some p)
    (ht : p.FirstLegal type) :
    (∃ fault, (evaluateEquality table name rhs).outcome = .error (.typeMismatch fault)) ↔
      p.access type = none := by
  rw [evaluateEquality_outcome_of_firstLegal hp ht]
  cases p.access type with
  | none => simp
  | some u => cases Literal.read? type rhs <;> simp

theorem evaluateDualEquality_eq_typeMismatch_iff (hl : table left = some l)
    (hr : table right = some r) (ht : l.FirstLegal type) :
    (∃ fault, (evaluateDualEquality table left right).outcome = .error (.typeMismatch fault)) ↔
      r.isLegal type = false ∨ l.access type = none ∨ r.access type = none := by
  rw [evaluateDualEquality_outcome_of_firstLegal hl hr ht]
  cases r.isLegal type with
  | false => simp
  | true => cases l.access type <;> cases r.access type <;> simp

theorem evaluateEquality_ne_ok (hp : table name = some p)
    (hnone : ∀ type, p.isLegal type = true → Literal.read? type rhs = none) (c : Bool) :
    (evaluateEquality table name rhs).outcome ≠ .ok c := by
  intro h
  obtain ⟨p', type, u, v, hp', ht, -, hv, -⟩ := evaluateEquality_eq_ok_iff.mp h
  obtain rfl := Option.some.inj (hp.symm.trans hp')
  rw [Literal.coerce_eq_ok_iff_read?, hnone type (p.isLegal_of_head? ht)] at hv
  contradiction

theorem evaluateDualEquality_ne_ok (hl : table left = some l) (hr : table right = some r)
    (hnone : ∀ type, l.isLegal type = true → r.isLegal type = false) (c : Bool) :
    (evaluateDualEquality table left right).outcome ≠ .ok c := by
  intro h
  obtain ⟨l', r', type, u, v, hl', hr', ht, hlegal, -⟩ := evaluateDualEquality_eq_ok_iff.mp h
  obtain rfl := Option.some.inj (hl.symm.trans hl')
  obtain rfl := Option.some.inj (hr.symm.trans hr')
  rw [hnone type (l.isLegal_of_head? ht)] at hlegal
  contradiction

end Outcomes

section Flags

variable {table : Table} {name left : Text} {p q : Parameter} {type : ValueType}

/-- Of the parameter that a literal is compared with, only the first legal type and the value of
that type matter. -/
theorem evaluateEquality_update (hp : table name = some p) (ht : p.FirstLegal type)
    (hq : q.FirstLegal type) (hvalue : q.access type = p.access type) (rhs : Text) :
    (evaluateEquality (Function.update table name (some q)) name rhs).outcome =
      (evaluateEquality table name rhs).outcome := by
  rw [evaluateEquality_outcome_of_firstLegal (Function.update_self ..) hq,
    evaluateEquality_outcome_of_firstLegal hp ht, hvalue]

theorem evaluateDualEquality_update (hp : table left = some p) (ht : p.FirstLegal type)
    (hq : q.FirstLegal type) (hvalue : q.access type = p.access type) (right : Text) :
    (evaluateDualEquality (Function.update table left (some q)) left right).outcome =
      (evaluateDualEquality table left right).outcome := by
  have hleft : Function.update table left (some q) left = some q := Function.update_self ..
  -- of a name compared with itself both sides change
  by_cases hsame : right = left
  · subst hsame
    rw [evaluateDualEquality_outcome_of_firstLegal hleft hleft hq,
      evaluateDualEquality_outcome_of_firstLegal hp hp ht, hvalue, ht.isLegal, hq.isLegal]
  · have hright : Function.update table left (some q) right = table right :=
      Function.update_of_ne hsame ..
    cases hr : table right with
    | none =>
      rw [hr] at hright
      rw [evaluateDualEquality_eq_error_iff.mpr (.absentRight hleft hright),
        evaluateDualEquality_eq_error_iff.mpr (.absentRight hp hr)]
    | some r =>
      rw [hr] at hright
      rw [evaluateDualEquality_outcome_of_firstLegal hleft hright hq,
        evaluateDualEquality_outcome_of_firstLegal hp hr ht, hvalue]

end Flags

/-- What the comparison of two parameters comes to, by what the two are. -/
structure ParameterComparison (left : Text) (l r : Parameter)
    (outcome : Except ResolveError Bool) : Prop where
  noLegalType_iff : outcome = .error (.noLegalType left) ↔ ∀ type, l.isLegal type = false
  typeMismatch_iff : ∀ type, l.FirstLegal type →
    ((∃ fault, outcome = .error (.typeMismatch fault)) ↔
      r.isLegal type = false ∨ l.access type = none ∨ r.access type = none)
  answer : ∀ type u v, l.FirstLegal type → r.isLegal type = true → l.access type = some u →
    r.access type = some v → outcome = .ok (u.sameValue v)
  no_common_type : (∀ type, l.isLegal type = true → r.isLegal type = false) →
    ∀ c, outcome ≠ .ok c

/-- What the comparison of a parameter with a literal comes to, by what the two are. -/
structure LiteralComparison (name rhs : Text) (p : Parameter)
    (outcome : Except ResolveError Bool) : Prop where
  noLegalType_iff : outcome = .error (.noLegalType name) ↔ ∀ type, p.isLegal type = false
  typeMismatch_iff : ∀ type, p.FirstLegal type →
    ((∃ fault, outcome = .error (.typeMismatch fault)) ↔ p.access type = none)
  malformed_iff : ∀ type u, p.FirstLegal type → p.access type = some u →
    (outcome = .error (.malformed rhs type) ↔ Literal.read? type rhs = none)
  answer : ∀ type u v, p.FirstLegal type → p.access type = some u →
    Literal.read? type rhs = some v → outcome = .ok (u.sameValue v)
  no_common_type : (∀ type, p.isLegal type = true → Literal.read? type rhs = none) →
    ∀ c, outcome ≠ .ok c

theorem parameterComparison {table : Table} {left right : Text} {l r : Parameter}
    (hl : table left = some l) (hr : table right = some r) :
    ParameterComparison left l r (evaluateDualEquality table left right).outcome where
  noLegalType_iff := evaluateDualEquality_eq_noLegalType_iff hl hr
  typeMismatch_iff _ ht := evaluateDualEquality_eq_typeMismatch_iff hl hr ht
  answer type u v ht hlegal hu hv := by
    rw [evaluateDualEquality_outcome_of_firstLegal hl hr ht, if_pos hlegal, hu, hv]
  no_common_type := evaluateDualEquality_ne_ok hl hr

theorem literalComparison {table : Table} {name : Text} {p : Parameter}
    (hp : table name = some p) (rhs : Text) :
    LiteralComparison name rhs p (evaluateEquality table name rhs).outcome where
  noLegalType_iff := evaluateEquality_eq_noLegalType_iff hp
  typeMismatch_iff _ ht := evaluateEquality_eq_typeMismatch_iff hp ht
  malformed_iff type u ht hu := by
    rw [evaluateEquality_outcome_of_firstLegal hp ht, hu]
    cases Literal.read? type rhs <;> simp
  answer type u v ht hu hv := by
    rw [evaluateEquality_outcome_of_firstLegal hp ht, hu, hv]
  no_common_type := evaluateEquality_ne_ok hp

/-- The outcome of a comparison over any table. Names are found before anything else is asked, the
left one first. Then the first legal type of the left parameter decides: it is what both sides are
taken as, so that no other flag of the left parameter bears on the outcome. Values are equal when
they stand for the same text, truth value or number, and NaN stands for none. -/
theorem comparison_outcomes (table : Table) :
    (∀ left right, table left = none →
      (evaluateDualEquality table left right).outcome = .error (.unresolved left)) ∧
    (∀ left right l, table left = some l → table right = none →
      (evaluateDualEquality table left right).outcome = .error (.unresolved right)) ∧
    (∀ left right l r, table left = some l → table right = some r →
      ParameterComparison left l r (evaluateDualEquality table left right).outcome) ∧
    (∀ name rhs, table name = none →
      (evaluateEquality table name rhs).outcome = .error (.unresolved name)) ∧
    (∀ name rhs p, table name = some p →
      LiteralComparison name rhs p (evaluateEquality table name rhs).outcome) ∧
    (∀ left p q type, table left = some p → p.FirstLegal type → q.FirstLegal type →
      q.access type = p.access type →
      (∀ right, (evaluateDualEquality (Function.update table left (some q)) left right).outcome =
        (evaluateDualEquality table left right).outcome) ∧
      ∀ rhs, (evaluateEquality (Function.update table left (some q)) left rhs).outcome =
        (evaluateEquality table left rhs).outcome) ∧
    (∀ u v : Scalar, u.sameValue v = true ↔ ∃ m, u.meaning? = some m ∧ v.meaning? = some m) ∧
    ∀ x y : Binary64, (Scalar.number x).sameValue (.number y) = true ↔
      ∃ n, x.number? = some n ∧ y.number? = some n := by
  refine ⟨?_, ?_, ?_, ?_, ?_, ?_, ?_, ?_⟩
  · intro left right hl
    exact evaluateDualEquality_eq_error_iff.mpr (.absentLeft hl)
  · intro left right l hl hr
    exact evaluateDualEquality_eq_error_iff.mpr (.absentRight hl hr)
  · intro left right l r hl hr
    exact parameterComparison hl hr
  · intro name rhs hp
    exact evaluateEquality_eq_error_iff.mpr (.absent hp)
  · intro name rhs p hp
    exact literalComparison hp rhs
  · intro left p q type hp ht hq hvalue
    exact ⟨evaluateDualEquality_update hp ht hq hvalue, evaluateEquality_update hp ht hq hvalue⟩
  · intro u v
    exact Scalar.sameValue_iff
  · intro x y
    exact Binary64.sameNumber_iff

/-- A parameter of no type beside one that is absent, one that is legal as a string and yields none,
and the two zeros, of which one is a truth value as well and the other is a string before all. -/
theorem comparison_outcomes_contradictory :
    let untyped : Parameter := ⟨false, false, false, some ['x'], none, none⟩
    let silent : Parameter := ⟨true, true, false, none, some (.zero false), none⟩
    let minus : Parameter := ⟨false, true, true, some ['x'], some (.zero true), some true⟩
    let plain : Parameter := ⟨false, true, false, none, some (.zero true), none⟩
    let zero : Parameter := ⟨true, true, false, some ['y'], some (.zero false), none⟩
    let table : Table := fun name => [(['u'], untyped), (['s'], silent), (['m'], minus),
      (['z'], zero)].lookup name
    (evaluateDualEquality table ['u'] ['v']).outcome = .error (.unresolved ['v']) ∧
      (evaluateDualEquality table ['u'] ['z']).outcome = .error (.noLegalType ['u']) ∧
      (∃ fault, (evaluateDualEquality table ['s'] ['m']).outcome =
        .error (.typeMismatch fault)) ∧
      (∃ fault, (evaluateEquality table ['s'] ['?']).outcome = .error (.typeMismatch fault)) ∧
      (evaluateEquality table ['m'] ['?']).outcome = .error (.malformed ['?'] .number) ∧
      (evaluateDualEquality table ['m'] ['z']).outcome = .ok true ∧
      (evaluateDualEquality (Function.update table ['m'] (some plain)) ['m'] ['z']).outcome =
        (evaluateDualEquality table ['m'] ['z']).outcome := by
  intro untyped silent minus plain zero table
  obtain ⟨-, habsent, hdual, -, hequality, hflags, -⟩ := comparison_outcomes table
  have hu : table ['u'] = some untyped := by decide +kernel
  have hs : table ['s'] = some silent := by decide +kernel
  have hm : table ['m'] = some minus := by decide +kernel
  have hz : table ['z'] = some zero := by decide +kernel
  have hstring : silent.FirstLegal .string := .string rfl
  have hnumber : minus.FirstLegal .number := .number rfl rfl
  refine ⟨habsent _ _ _ hu (by decide +kernel), ?_, ?_, ?_, ?_, ?_, ?_⟩
  · exact (hdual _ _ _ _ hu hz).noLegalType_iff.mpr (by intro type; cases type <;> rfl)
  · exact ((hdual _ _ _ _ hs hm).typeMismatch_iff _ hstring).mpr (.inl rfl)
  · exact ((hequality _ _ _ hs).typeMismatch_iff _ hstring).mpr rfl
  · exact ((hequality _ _ _ hm).malformed_iff _ _ hnumber rfl).mpr (by decide +kernel)
  · exact (hdual _ _ _ _ hm hz).answer _ _ _ hnumber rfl rfl rfl
  · exact (hflags _ _ plain _ hm hnumber (.number rfl rfl) rfl).1 _

end ParameterTemplates
