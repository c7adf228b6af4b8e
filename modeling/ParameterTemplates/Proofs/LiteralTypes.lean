import ParameterTemplates.Proofs.OutcomeLaw
import ParameterTemplates.Proofs.Provenance

/-! No expression has two types. The text of a literal settles which type it can be a literal of, and
so does, over a table of values, the value of the condition for the branch that is taken. What type
is wanted has no part in either, so that all but comparisons answer for one wanted type at most. -/
namespace ParameterTemplates
open Template

namespace Literal

/-- The one type that a text can be a literal of. A string has its quotes and a boolean is one of two
words; a number has no quotes and is none of the words. -/
def soleType (t : Text) : ValueType :=
  if t.head? = some '"' then .string
  else if t = "true".toList ∨ t = "false".toList then .boolean
  else .number

variable {wanted : ValueType} {t : Text} {v : Scalar}

theorem head?_ne_quote_of_number? (h : number? t = some v) : t.head? ≠ some '"' := by
  intro hhead
  have hplain := isPlainChar_of_number? h (List.mem_of_mem_head? hhead)
  exact absurd hplain (by decide)

theorem ne_truth_of_number? (h : number? t = some v) :
    ¬(t = "true".toList ∨ t = "false".toList) := by
  have hnone : number? "true".toList = none ∧ number? "false".toList = none := ⟨rfl, rfl⟩
  intro ht
  obtain rfl | rfl := ht
  · rw [hnone.1] at h
    contradiction
  · rw [hnone.2] at h
    contradiction

theorem soleType_of_read? (h : read? wanted t = some v) : soleType t = wanted := by
  unfold soleType
  cases wanted with
  | string =>
    obtain ⟨s, rfl, -⟩ := string?_eq_some_iff.mp h
    exact if_pos rfl
  | number => rw [if_neg (head?_ne_quote_of_number? h), if_neg (ne_truth_of_number? h)]
  | boolean =>
    simp only [read?, boolean?] at h
    split at h
    · next ht =>
      rw [ht]
      decide
    · obtain ⟨rfl, -⟩ := Option.ite_none_right_eq_some.mp h
      decide

end Literal

namespace Values

/-- The type that a branch can be taken as: of a reference the type of the value, of a literal the
one that its text allows. -/
def branchType? (values : Values) (branch : Text) : Option ValueType :=
  match reference? branch with
  | some name => (values name).map Scalar.type
  | none => some (Literal.soleType branch)

/-- The type that the answer of a shape can have, where this is not the type of a comparison. -/
def answerType? (values : Values) : Shape → Option ValueType
  | .identity name => (values name).map Scalar.type
  | s => (s.condition? values.table).bind fun holds => (s.branch? holds).bind values.branchType?

variable {values : Values} {wanted : ValueType} {name branch : Text} {s : Shape} {v : Scalar}

theorem Reads.type_eq (h : values.Reads wanted name (.ok v)) :
    (values name).map Scalar.type = some wanted := by
  cases h with
  | value hv htype => rw [hv, Option.map_some, htype]

theorem Takes.type_eq (h : values.Takes wanted branch (.ok v)) :
    values.branchType? branch = some wanted := by
  unfold branchType?
  cases h with
  | reference hr h => simp only [hr, h.type_eq]
  | literal hr h => simp only [hr, Literal.soleType_of_read? h]

theorem answerType?_of_choice (hk : s.kind = .ternary ∨ s.kind = .literalTernary)
    (h : (evaluate values.table wanted s).outcome = .ok v) :
    values.answerType? s = some wanted := by
  obtain ⟨holds, branch, hc, hb, hv⟩ :=
    (Shape.answers_choice_iff hk).mp (evaluate_eq_ok_iff_answers.mp h)
  have htype := ((branchValue_eq_iff _).mp hv).type_eq
  cases s with
  | ternary | literalTernary => simp [answerType?, hc, hb, htype]
  | identity | equality | dualEquality => contradiction

theorem answerType?_of_evaluate
    (hk : s.kind = .identity ∨ s.kind = .ternary ∨ s.kind = .literalTernary)
    (h : (evaluate values.table wanted s).outcome = .ok v) :
    values.answerType? s = some wanted := by
  obtain hk | hk := hk
  · cases s with
    | identity name => exact ((value_eq_iff _).mp h).type_eq
    | equality | dualEquality | ternary | literalTernary => contradiction
  · exact answerType?_of_choice hk h

end Values

/-- A text is a literal of one type at most. Over a table of values an expression that is no
comparison answers for one wanted type at most. -/
theorem expression_type_unique :
    (∀ t w w' v v', Literal.coerce w t = .ok v → Literal.coerce w' t = .ok v' → w = w') ∧
    ∀ (values : Values) e s, (classify e).outcome = .ok s →
      s.kind = .identity ∨ s.kind = .ternary ∨ s.kind = .literalTernary →
      ∀ w w' v v', (resolve values.table w e).outcome = .ok v →
        (resolve values.table w' e).outcome = .ok v' → w = w' := by
  constructor
  · intro t w w' v v' h h'
    have hw := Literal.soleType_of_read? (Literal.coerce_eq_ok_iff.mp h).2
    have hw' := Literal.soleType_of_read? (Literal.coerce_eq_ok_iff.mp h').2
    rw [← hw, ← hw']
  · intro values e s hs hk w w' v v' h h'
    rw [resolve_outcome, classify_eq_ok_iff.mp hs] at h h'
    have hw := Values.answerType?_of_evaluate hk h
    have hw' := Values.answerType?_of_evaluate hk h'
    exact Option.some.inj (hw.symm.trans hw')

/-- Branches of two types, of which the condition takes a reference. -/
theorem expression_type_unique_reference :
    let e := (openMark ++ " params.a == \"x\" ? params.b : true ".toList ++ closeMark : Text)
    let values : Values :=
      ((Bindings.empty.set ['a'] (.string ['x'])).set ['b'] (.number (.ofInt 7))).find?
    (resolve values.table .number e).outcome = .ok (.number (.ofInt 7)) ∧
      (∀ w v, (resolve values.table w e).outcome = .ok v → w = .number) ∧
      ∀ w v, Literal.coerce w "\"7\"".toList = .ok v → w = .string := by
  intro e values
  obtain ⟨hliteral, hexpression⟩ := expression_type_unique
  have hs : (classify e).outcome =
      .ok (.ternary ['a'] "\"x\"".toList "params.b".toList "true".toList) := by decide +kernel
  have hv : (resolve values.table .number e).outcome = .ok (.number (.ofInt 7)) := by
    decide +kernel
  have hstring : Literal.coerce .string "\"7\"".toList = .ok (.string ['7']) := by decide +kernel
  refine ⟨hv, fun w v h => ?_, fun w v h => ?_⟩
  · exact hexpression values e _ hs (.inr (.inl rfl)) w _ v _ h hv
  · exact hliteral _ w _ v _ h hstring

end ParameterTemplates
