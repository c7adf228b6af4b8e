import ParameterTemplates.Proofs.Noninterference
import ParameterTemplates.Proofs.ReferencedNames

/-! Where answers come from, over tables whose parameters may say one thing of their types and yield
another. There is one rule for each way to an answer, and no answer without one of them: a value is
what the accessor of a legal type yields or what a literal of the expression denotes, never the
value of another type. -/
namespace ParameterTemplates
open Template

/-- The parameter of a name is legal as a type, and its accessor for that type yields a value. -/
def Table.Supplies (table : Table) (type : ValueType) (n : Text) (v : Scalar) : Prop :=
  ∃ p, table n = some p ∧ p.isLegal type = true ∧ p.access type = some v

/-- A comparison is made as the first type that is legal for the parameter on its left. -/
def Table.ComparesAs (table : Table) (n : Text) (type : ValueType) : Prop :=
  ∃ p, table n = some p ∧ p.legalTypes.head? = some type

namespace Template.Shape

/-- The two values that a comparison is made of, both of the type that it is made as. -/
inductive Compares (table : Table) : Shape → Scalar → Scalar → Prop where
  | literal {name rhs : Text} {type : ValueType} {u v : Scalar} : table.ComparesAs name type →
      table.Supplies type name u → Literal.coerce type rhs = .ok v →
      Compares table (.equality name rhs) u v
  | parameter {left right : Text} {type : ValueType} {u v : Scalar} :
      table.ComparesAs left type → table.Supplies type left u → table.Supplies type right v →
      Compares table (.dualEquality left right) u v

/-- How a shape comes to an answer. A choice has the answer of the branch that its condition
selects, which is a reference or a literal. -/
inductive Answers (table : Table) (wanted : ValueType) : Shape → Scalar → Prop where
  | identity {name : Text} {v : Scalar} : table.Supplies wanted name v →
      Answers table wanted (.identity name) v
  | comparison {s : Shape} {u v : Scalar} : s.Compares table u v →
      Answers table wanted s (.boolean (u.sameValue v))
  | reference {s : Shape} {holds : Bool} {branch n : Text} {v : Scalar} :
      s.condition? table = some holds → s.branch? holds = some branch →
      reference? branch = some n → table.Supplies wanted n v → Answers table wanted s v
  | literal {s : Shape} {holds : Bool} {branch : Text} {v : Scalar} :
      s.condition? table = some holds → s.branch? holds = some branch →
      Literal.coerce wanted branch = .ok v → Answers table wanted s v

end Template.Shape

section Operands

variable {table : Table} {wanted : ValueType} {name rhs left right branch : Text}

theorem Table.value_eq_ok_iff_supplies {v : Scalar} :
    table.value wanted name = .ok v ↔ table.Supplies wanted name v :=
  Table.value_eq_ok_iff

theorem Table.Supplies.type_eq {v : Scalar} (h : table.Supplies wanted name v) :
    v.type = wanted := by
  obtain ⟨p, -, -, hv⟩ := h
  exact p.type_of_access hv

/-- A literal is never read of a reference, so that one of the two ways is open at most. -/
theorem Table.branchValue_eq_ok_iff {v : Scalar} : table.branchValue wanted branch = .ok v ↔
    (∃ n, reference? branch = some n ∧ table.Supplies wanted n v) ∨
      Literal.coerce wanted branch = .ok v := by
  unfold Table.branchValue
  cases hr : reference? branch with
  | none => simp
  | some n =>
    have hcoerce : Literal.coerce wanted branch ≠ .ok v := by
      simp [Literal.coerce_eq_ok_iff, hr]
    simp [Table.value_eq_ok_iff_supplies, hcoerce]

theorem compares_equality_iff {u v : Scalar} : (Shape.equality name rhs).Compares table u v ↔
    ∃ p type, table name = some p ∧ p.legalTypes.head? = some type ∧
      p.readAs name type = .ok u ∧ Literal.coerce type rhs = .ok v := by
  constructor
  · intro h
    cases h with
    | @literal _ _ type _ _ has hsupplies hcoerce =>
      obtain ⟨p, hp, ht⟩ := has
      obtain ⟨p', hp', hread⟩ := hsupplies
      obtain rfl : p = p' := Option.some.inj (hp.symm.trans hp')
      exact ⟨p, type, hp, ht, Parameter.readAs_eq_ok_iff.mpr hread, hcoerce⟩
  · rintro ⟨p, type, hp, ht, hread, hcoerce⟩
    exact .literal ⟨p, hp, ht⟩ ⟨p, hp, Parameter.readAs_eq_ok_iff.mp hread⟩ hcoerce

theorem compares_dualEquality_iff {u v : Scalar} :
    (Shape.dualEquality left right).Compares table u v ↔
      ∃ l r type, table left = some l ∧ table right = some r ∧ l.legalTypes.head? = some type ∧
        r.isLegal type = true ∧ l.access type = some u ∧ r.access type = some v := by
  constructor
  · intro h
    cases h with
    | @parameter _ _ type _ _ has hleft hright =>
      obtain ⟨l, hl, ht⟩ := has
      obtain ⟨l', hl', -, hu⟩ := hleft
      obtain rfl : l = l' := Option.some.inj (hl.symm.trans hl')
      obtain ⟨r, hr, hlegal, hv⟩ := hright
      exact ⟨l, r, type, hl, hr, ht, hlegal, hu, hv⟩
  · rintro ⟨l, r, type, hl, hr, ht, hlegal, hu, hv⟩
    exact .parameter ⟨l, hl, ht⟩ ⟨l, hl, l.isLegal_of_head? ht, hu⟩ ⟨r, hr, hlegal, hv⟩

theorem evaluateEquality_eq_ok_iff_compares {c : Bool} :
    (evaluateEquality table name rhs).outcome = .ok c ↔
      ∃ u v, (Shape.equality name rhs).Compares table u v ∧ u.sameValue v = c := by
  rw [evaluateEquality_eq_ok_iff]
  constructor
  · rintro ⟨p, type, u, v, hp, ht, hread, hcoerce, hc⟩
    exact ⟨u, v, compares_equality_iff.mpr ⟨p, type, hp, ht, hread, hcoerce⟩, hc⟩
  · rintro ⟨u, v, h, hc⟩
    obtain ⟨p, type, hp, ht, hread, hcoerce⟩ := compares_equality_iff.mp h
    exact ⟨p, type, u, v, hp, ht, hread, hcoerce, hc⟩

theorem evaluateDualEquality_eq_ok_iff_compares {c : Bool} :
    (evaluateDualEquality table left right).outcome = .ok c ↔
      ∃ u v, (Shape.dualEquality left right).Compares table u v ∧ u.sameValue v = c := by
  rw [evaluateDualEquality_eq_ok_iff]
  constructor
  · rintro ⟨l, r, type, u, v, hl, hr, ht, hlegal, hu, hv, hc⟩
    exact ⟨u, v, compares_dualEquality_iff.mpr ⟨l, r, type, hl, hr, ht, hlegal, hu, hv⟩, hc⟩
  · rintro ⟨u, v, h, hc⟩
    obtain ⟨l, r, type, hl, hr, ht, hlegal, hu, hv⟩ := compares_dualEquality_iff.mp h
    exact ⟨l, r, type, u, v, hl, hr, ht, hlegal, hu, hv, hc⟩

end Operands

section Answers

variable {table : Table} {wanted : ValueType} {s : Shape} {v : Scalar}

namespace Template.Shape

theorem Compares.kind_eq {u : Scalar} (h : s.Compares table u v) :
    s.kind = .equality ∨ s.kind = .dualEquality := by
  cases h with
  | literal => exact .inl rfl
  | parameter => exact .inr rfl

theorem branch?_ne_of_comparison (hk : s.kind = .equality ∨ s.kind = .dualEquality) (holds : Bool)
    (branch : Text) : s.branch? holds ≠ some branch := by
  intro hb
  rcases kind_of_branch? hb with h | h <;> simp [h] at hk

theorem answers_comparison_iff (hk : s.kind = .equality ∨ s.kind = .dualEquality) :
    s.Answers table wanted v ↔ ∃ u w, s.Compares table u w ∧ .boolean (u.sameValue w) = v := by
  constructor
  · intro h
    cases h with
    | identity => simp [kind] at hk
    | comparison h => exact ⟨_, _, h, rfl⟩
    | reference _ hb => exact absurd hb (branch?_ne_of_comparison hk _ _)
    | literal _ hb => exact absurd hb (branch?_ne_of_comparison hk _ _)
  · rintro ⟨u, w, h, rfl⟩
    exact .comparison h

theorem answers_choice_iff (hk : s.kind = .ternary ∨ s.kind = .literalTernary) :
    s.Answers table wanted v ↔ ∃ holds branch, s.condition? table = some holds ∧
      s.branch? holds = some branch ∧ table.branchValue wanted branch = .ok v := by
  simp only [Table.branchValue_eq_ok_iff]
  constructor
  · intro h
    cases h with
    | identity => simp [kind] at hk
    | comparison h => rcases h.kind_eq with h | h <;> simp [h] at hk
    | reference hc hb hr hn => exact ⟨_, _, hc, hb, .inl ⟨_, hr, hn⟩⟩
    | literal hc hb hcoerce => exact ⟨_, _, hc, hb, .inr hcoerce⟩
  · rintro ⟨holds, branch, hc, hb, ⟨n, hr, hn⟩ | hcoerce⟩
    · exact .reference hc hb hr hn
    · exact .literal hc hb hcoerce

theorem answers_identity_iff {name : Text} :
    (identity name).Answers table wanted v ↔ table.Supplies wanted name v := by
  constructor
  · intro h
    cases h with
    | identity h => exact h
    | comparison h => contradiction
    | reference | literal => contradiction
  · exact .identity

end Template.Shape

theorem toOption_eq_some_iff {r : Except ResolveError Bool} {c : Bool} :
    r.toOption = some c ↔ r = .ok c := by
  cases r <;> simp [Except.toOption]

theorem toOption_eq_none_iff {r : Except ResolveError Bool} :
    r.toOption = none ↔ ∃ e, r = .error e := by
  cases r <;> simp [Except.toOption]

/-- The truth value of a comparison stands for the two values that were compared. -/
theorem exists_boolean_sameValue_iff {compared : Scalar → Scalar → Prop} :
    (∃ c, (∃ u w, compared u w ∧ u.sameValue w = c) ∧ .boolean c = v) ↔
      ∃ u w, compared u w ∧ .boolean (u.sameValue w) = v := by
  constructor
  · rintro ⟨_, ⟨u, w, h, rfl⟩, hv⟩
    exact ⟨u, w, h, hv⟩
  · rintro ⟨u, w, h, hv⟩
    exact ⟨_, ⟨u, w, h, rfl⟩, hv⟩

/-- The rules describe evaluation: what they allow is answered, and nothing else is. -/
theorem evaluate_eq_ok_iff_answers :
    (evaluate table wanted s).outcome = .ok v ↔ s.Answers table wanted v := by
  cases s with
  | identity name =>
    rw [Shape.answers_identity_iff]
    exact Table.value_eq_ok_iff
  | equality name rhs =>
    simp only [evaluate_equality_eq_ok_iff, evaluateEquality_eq_ok_iff_compares]
    rw [exists_boolean_sameValue_iff, Shape.answers_comparison_iff (.inl rfl)]
  | dualEquality left right =>
    simp only [evaluate_dualEquality_eq_ok_iff, evaluateDualEquality_eq_ok_iff_compares]
    rw [exists_boolean_sameValue_iff, Shape.answers_comparison_iff (.inr rfl)]
  | ternary name rhs x y =>
    rw [evaluate, evaluateTernary_eq_ok_iff, Shape.answers_choice_iff (.inl rfl)]
    simp [Shape.condition?, Shape.branch?, toOption_eq_some_iff]
  | literalTernary name x y =>
    rw [evaluate, evaluateLiteralTernary_eq_ok_iff, Shape.answers_choice_iff (.inr rfl)]
    simp [Shape.condition?, Shape.branch?, toOption_eq_some_iff]

theorem resolve_eq_ok_iff {e : Text} : (resolve table wanted e).outcome = .ok v ↔
    ∃ s, (classify e).outcome = .ok s ∧ s.Answers table wanted v := by
  rw [resolve_outcome]
  cases hs : classify? e with
  | none => simp [classify_eq_ok_iff, hs]
  | some s => simp [classify_eq_ok_iff, hs, evaluate_eq_ok_iff_answers]

/-- An answer that is no comparison is supplied by a parameter that the shape mentions or denoted by
the selected branch. -/
theorem Template.Shape.Answers.origin (h : s.Answers table wanted v)
    (hk : ¬(s.kind = .equality ∨ s.kind = .dualEquality)) :
    v.type = wanted ∧ ((∃ n ∈ s.mentions, table.Supplies wanted n v) ∨
      ∃ holds branch, s.condition? table = some holds ∧ s.branch? holds = some branch ∧
        Literal.coerce wanted branch = .ok v) := by
  cases h with
  | identity h => exact ⟨h.type_eq, .inl ⟨_, by simp [mentions], h⟩⟩
  | comparison h => exact absurd h.kind_eq hk
  | @reference _ holds branch n _ hc hb hr hn =>
    exact ⟨hn.type_eq, .inl ⟨n, mem_mentions_iff.mpr (.inr ⟨holds, branch, hb, hr⟩), hn⟩⟩
  | @literal _ holds branch _ hc hb hcoerce =>
    exact ⟨Literal.type_of_read? (Literal.coerce_eq_ok_iff.mp hcoerce).2,
      .inr ⟨holds, branch, hc, hb, hcoerce⟩⟩

end Answers

theorem evaluate_comparison_congr {s : Shape} (h : s.kind = .equality ∨ s.kind = .dualEquality)
    (table : Table) (w w' : ValueType) : evaluate table w s = evaluate table w' s := by
  cases s with
  | equality | dualEquality => rfl
  | identity | ternary | literalTernary => simp [Shape.kind] at h

/-- An expression answers exactly as the rules for its shape say. The answer of a comparison is a
truth value, and with all its records the same whatever type is wanted. The answer of any other
shape is of the type that is wanted, and it is what the accessor for that type yields of a listed
parameter that is legal as the type, or what the selected branch denotes as a literal of the type;
that branch stands in the expression as it is. -/
theorem answer_provenance (table : Table) (wanted : ValueType) (e : Text) :
    (∀ v, (resolve table wanted e).outcome = .ok v ↔
      ∃ s, (classify e).outcome = .ok s ∧ s.Answers table wanted v) ∧
    ∀ s, (classify e).outcome = .ok s → ∃ names, (referencedParameters e).outcome = .ok names ∧
      (s.kind = .equality ∨ s.kind = .dualEquality →
        (∀ v, (resolve table wanted e).outcome = .ok v → ∃ b, v = .boolean b) ∧
        ∀ w, resolve table w e = resolve table wanted e) ∧
      (¬(s.kind = .equality ∨ s.kind = .dualEquality) →
        ∀ v, (resolve table wanted e).outcome = .ok v → v.type = wanted ∧
          ((∃ n ∈ names, table.Supplies wanted n v) ∨
            ∃ holds branch p q, s.condition? table = some holds ∧
              s.branch? holds = some branch ∧ e = p ++ branch ++ q ∧
              Literal.coerce wanted branch = .ok v)) := by
  refine ⟨fun v => resolve_eq_ok_iff, fun s hs => ⟨s.parameters, referencedParameters_eq_ok hs, ?_⟩⟩
  have hclassify := classify_eq_ok_iff.mp hs
  have hanswers : ∀ v, (resolve table wanted e).outcome = .ok v → s.Answers table wanted v := by
    intro v hv
    rw [resolve_outcome, hclassify] at hv
    exact evaluate_eq_ok_iff_answers.mp hv
  refine ⟨fun hk => ⟨fun v hv => ?_, fun w => ?_⟩, fun hk v hv => ?_⟩
  · obtain ⟨u, u', -, rfl⟩ := (Shape.answers_comparison_iff hk).mp (hanswers v hv)
    exact ⟨_, rfl⟩
  · refine Traced.bind_congr fun t ht => ?_
    obtain rfl : s = t := Except.ok.inj (hs.symm.trans ht)
    simp only [evaluate_comparison_congr hk table w wanted]
  · obtain ⟨htype, ⟨n, hn, hsupplies⟩ | ⟨holds, branch, hc, hb, hcoerce⟩⟩ :=
      (hanswers v hv).origin hk
    · exact ⟨htype, .inl ⟨n, Shape.mem_parameters_iff.mpr hn, hsupplies⟩⟩
    · obtain ⟨p, q, he, -⟩ := (written_of_classify? hclassify).setBranch hb
      exact ⟨htype, .inr ⟨holds, branch, p, q, hc, hb, he, hcoerce⟩⟩

/-- A parameter that yields a number and a truth value and is legal as a number and a string, taken
by a flag that is legal as a string too. -/
theorem answer_provenance_contradictory :
    let e := (openMark ++ " params.f ? 7 : params.n ".toList ++ closeMark : Text)
    let flag : Parameter := ⟨true, false, true, none, some (.ofInt 1), some false⟩
    let other : Parameter := ⟨true, true, false, none, some (.ofInt 5), some true⟩
    let table : Table := fun name => if name = ['f'] then some flag else some other
    let s := Shape.literalTernary ['f'] ['7'] "params.n".toList
    (classify e).outcome = .ok s ∧
      (resolve table .number e).outcome = .ok (.number (.ofInt 5)) ∧
      s.Answers table .number (.number (.ofInt 5)) ∧
      ∃ names, (referencedParameters e).outcome = .ok names ∧
        ((∃ n ∈ names, table.Supplies .number n (.number (.ofInt 5))) ∨
          ∃ holds branch p q, s.condition? table = some holds ∧ s.branch? holds = some branch ∧
            e = p ++ branch ++ q ∧ Literal.coerce .number branch = .ok (.number (.ofInt 5))) := by
  intro e flag other table s
  have hs : (classify e).outcome = .ok s := by decide +kernel
  have hv : (resolve table .number e).outcome = .ok (.number (.ofInt 5)) := by decide +kernel
  obtain ⟨hrules, hshape⟩ := answer_provenance table .number e
  obtain ⟨t, ht, hanswers⟩ := (hrules _).mp hv
  obtain rfl : s = t := Except.ok.inj (hs.symm.trans ht)
  obtain ⟨names, hnames, -, horigin⟩ := hshape s hs
  exact ⟨hs, hv, hanswers, names, hnames, (horigin (by decide) _ hv).2⟩

end ParameterTemplates
