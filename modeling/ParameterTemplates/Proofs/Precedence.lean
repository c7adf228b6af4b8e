import ParameterTemplates.Proofs.RightSide

/-! The order in which the shapes are tried. All that matters about it is that a dual equality is
looked for before an equality: no other two shapes are read of one text. -/
namespace ParameterTemplates
namespace Template

variable {order : List ShapeKind} {expression : Text}

theorem classify?_eq_none_iff_read? :
    classify? expression = none ↔ ∀ kind, read? kind expression = none := by
  rw [classify?, List.findSome?_eq_none_iff]
  exact forall_congr' fun kind => by simp only [mem_precedence kind, forall_const]

/-- Trying the dual equality before the equality suffices. -/
theorem firstShape?_eq_classify? (hall : ∀ kind, kind ∈ order)
    (hlt : order.idxOf .dualEquality < order.idxOf .equality) (expression : Text) :
    firstShape? order expression = classify? expression :=
  Option.ext fun s => by rw [firstShape?_eq_some_iff hall hlt, classify?_eq_some_iff]

/-- The comparison of two parameters is read as either kind of equality. -/
def comparedReference : Text := openMark ++ "params.a == params.b".toList ++ closeMark

theorem idxOf_lt_of_firstShape?_eq (hall : ∀ kind, kind ∈ order)
    (h : firstShape? order comparedReference = classify? comparedReference) :
    order.idxOf .dualEquality < order.idxOf .equality := by
  have hdual : firstShape? order comparedReference = some (.dualEquality ['a'] ['b']) := by
    rw [h]
    rfl
  have hequality : read? .equality comparedReference ≠ none := by decide
  have hne : order.idxOf .dualEquality ≠ order.idxOf .equality := fun he =>
    absurd ((List.idxOf_inj (hall _)).mp he) (by decide)
  by_contra hnot
  refine hequality (read?_eq_none_of_idxOf_lt hdual ?_)
  rw [Shape.kind]
  omega

end Template

open Template

/-- No two shapes but the two equalities are read of one text, and the dual equality is the equality
whose right side is a reference. Any order of trying the shapes therefore finds the same ones,
provided that it looks for a dual equality before an equality. -/
theorem classification_order_irrelevant :
    (∀ e : Text,
      (∀ k l s t, k ≠ .dualEquality → l ≠ .dualEquality → read? k e = some s →
        read? l e = some t → k = l) ∧
      (∀ left right, read? .dualEquality e = some (.dualEquality left right) ↔
        ∃ rhs, read? .equality e = some (.equality left rhs) ∧ reference? rhs = some right) ∧
      (∀ err, (classify e).outcome = .error err ↔
        err = .structural e .unsupported ∧ ∀ kind, read? kind e = none) ∧
      ∀ name rhs, (classify e).outcome = .ok (.equality name rhs) → reference? rhs = none) ∧
    ∀ order : List ShapeKind, order.Perm precedence →
      ((∀ e, firstShape? order e = classify? e) ↔
        order.idxOf .dualEquality < order.idxOf .equality) := by
  refine ⟨fun e => ⟨?_, ?_, ?_, ?_⟩, fun order hperm => ?_⟩
  · intro k l s t hk hl hs ht
    obtain ⟨rfl, hws⟩ := read?_eq_some_iff.mp hs
    obtain ⟨rfl, hwt⟩ := read?_eq_some_iff.mp ht
    rcases hws.eq_or hwt with rfl | ⟨-, h⟩ | ⟨h, -⟩
    · rfl
    · exact absurd h hl
    · exact absurd h hk
  · intro left right
    simp only [read?_eq_some_iff, Shape.kind, true_and]
    exact written_dualEquality_iff
  · intro err
    rw [classify_outcome, ← classify?_eq_none_iff_read?]
    cases classify? e <;> simp [eq_comm]
  · intro name rhs h
    obtain ⟨hw, hdual⟩ := classify?_eq_some_iff.mp (classify_eq_ok_iff.mp h)
    rw [Option.eq_none_iff_forall_ne_some]
    intro right hr
    exact hdual rfl _ (written_dualEquality_iff.mpr ⟨rhs, hw, hr⟩) rfl
  · have hall : ∀ kind, kind ∈ order := fun kind => hperm.mem_iff.mpr (mem_precedence kind)
    exact ⟨fun h => idxOf_lt_of_firstShape?_eq hall (h _), firstShape?_eq_classify? hall⟩

/-- The shapes with branches between the two equalities, and the reference last. -/
theorem classification_order_irrelevant_mixed :
    [ShapeKind.dualEquality, .literalTernary, .ternary, .equality, .identity].Perm precedence ∧
    ∀ e, firstShape? [.dualEquality, .literalTernary, .ternary, .equality, .identity] e =
      classify? e := by
  have hperm : [ShapeKind.dualEquality, .literalTernary, .ternary, .equality, .identity].Perm
    precedence := by decide
  exact ⟨hperm, (classification_order_irrelevant.2 _ hperm).mpr (by decide)⟩

end ParameterTemplates
