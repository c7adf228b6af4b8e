import ParameterTemplates.Proofs.Comparison
import ParameterTemplates.Proofs.EntryPoints

/-! The guard that keeps references out of the positions of literals. No literal of any type is a
reference, so the guard changes no answer: what it refuses would be refused without it, and in the
same words. -/
namespace ParameterTemplates
open Text Template

namespace Literal

variable {t name : Text}

theorem read?_of_reference (h : reference? t = some name) (wanted : ValueType) :
    read? wanted t = none := by
  cases hv : read? wanted t with
  | none => rfl
  | some v =>
    rw [reference?_of_read? hv] at h
    contradiction

theorem read_of_reference (h : reference? t = some name) (wanted : ValueType) :
    read wanted t = .error (.malformed t wanted) := by
  rw [read, read?_of_reference h]

theorem coerce_eq_read (wanted : ValueType) (t : Text) : coerce wanted t = read wanted t := by
  unfold coerce
  cases h : reference? t with
  | none => rfl
  | some name => exact (read_of_reference h wanted).symm

theorem coerce_of_reference (h : reference? t = some name) (wanted : ValueType) :
    coerce wanted t = .error (.malformed t wanted) := by
  rw [coerce_eq_read, read_of_reference h]

end Literal

section Comparisons

variable {table : Table} {t other : Text}

theorem evaluateEquality_reference_ne_ok (h : reference? t = some other) (name : Text) (c : Bool) :
    (evaluateEquality table name t).outcome ≠ .ok c := by
  obtain ⟨err, herr, -⟩ : ∃ err, (evaluateEquality table name t).outcome = .error err ∧ _ :=
    evaluateEquality_reference h
  simp [herr]

/-- A condition that compares with a reference selects no branch. -/
theorem evaluateTernary_reference_ne_ok (h : reference? t = some other) (wanted : ValueType)
    (name x y : Text) (v : Scalar) :
    (evaluateTernary table wanted name t x y).outcome ≠ .ok v := by
  intro hv
  obtain ⟨c, hc, -⟩ := evaluateTernary_eq_ok_iff.mp hv
  exact evaluateEquality_reference_ne_ok h name c hc

/-- Once the parameter on the left is found to have a value, the reference is what is reported. -/
theorem evaluateEquality_eq_malformed_reference {name : Text} {p : Parameter} {type : ValueType}
    {u : Scalar} (h : reference? t = some other) (hp : table name = some p)
    (ht : p.FirstLegal type) (hu : p.access type = some u) :
    (evaluateEquality table name t).outcome = .error (.malformed t type) := by
  rw [evaluateEquality_outcome_of_firstLegal hp ht, hu, Literal.read?_of_reference h]

end Comparisons

/-- The guard against references changes no answer, errors included. A name after the selector with
any blanks around it is a reference, and every reference is malformed as a literal of each type, with
the guard and without it. So the right side of a comparison is never a reference: not alone, and not
as the condition of a choice. -/
theorem reference_guard_changes_no_answer :
    (∀ wanted t, Literal.coerce wanted t = Literal.read wanted t) ∧
    (∀ a name b, IsGap a → IsName name → IsGap b →
      reference? (a ++ referTo name ++ b) = some name) ∧
    (∀ t name, reference? t = some name → ∀ wanted,
      Literal.coerce wanted t = .error (.malformed t wanted) ∧
        Literal.read wanted t = .error (.malformed t wanted)) ∧
    ∀ t other, reference? t = some other → ∀ (table : Table) name,
      (∀ c, (evaluateEquality table name t).outcome ≠ .ok c) ∧
      (∀ wanted x y v, (evaluate table wanted (.ternary name t x y)).outcome ≠ .ok v) ∧
      ∀ p type u, table name = some p → p.FirstLegal type → p.access type = some u →
        (evaluateEquality table name t).outcome = .error (.malformed t type) := by
  refine ⟨Literal.coerce_eq_read, ?_, ?_, ?_⟩
  · intro a name b ha hname hb
    exact reference?_eq_some_iff.mpr ⟨a, b, ha, hb, hname, rfl⟩
  · intro t name h wanted
    exact ⟨Literal.coerce_of_reference h wanted, Literal.read_of_reference h wanted⟩
  · intro t other h table name
    refine ⟨evaluateEquality_reference_ne_ok h name, ?_, ?_⟩
    · intro wanted x y v
      exact evaluateTernary_reference_ne_ok h wanted name x y v
    · intro p type u hp ht hu
      exact evaluateEquality_eq_malformed_reference h hp ht hu

/-- A reference between blanks of two kinds, to a name that ends like a number, on the right of a
parameter that is a number. -/
theorem reference_guard_changes_no_answer_padded :
    let t : Text := "\u3000params._e-1\t".toList
    let table : Table := fun _ => some (.ofScalar (.number (.zero false)))
    reference? t = some "_e-1".toList ∧
      (∀ wanted, Literal.coerce wanted t = .error (.malformed t wanted) ∧
        Literal.read wanted t = .error (.malformed t wanted)) ∧
      (evaluateEquality table ['x'] t).outcome = .error (.malformed t .number) ∧
      ∀ c, (evaluateEquality table ['x'] t).outcome ≠ .ok c := by
  intro t table
  obtain ⟨-, hreference, hmalformed, hcompare⟩ := reference_guard_changes_no_answer
  have ht : t = ['\u3000'] ++ referTo "_e-1".toList ++ ['\t'] := by decide
  have h : reference? t = some "_e-1".toList := by
    rw [ht]
    exact hreference _ _ _ (by decide) (by decide) (by decide)
  obtain ⟨hne, -, herror⟩ := hcompare t _ h table ['x']
  exact ⟨h, hmalformed t _ h, herror _ _ _ rfl (.number rfl rfl) rfl, hne⟩

end ParameterTemplates
