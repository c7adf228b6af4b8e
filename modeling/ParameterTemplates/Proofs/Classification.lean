import ParameterTemplates.Proofs.Grammar
import ParameterTemplates.Proofs.OpenQuestion
import ParameterTemplates.Proofs.Outcome

/-! The one shape that an expression is classified as. Behind a condition and its question mark
nothing but the choice on that condition is ever read. -/
namespace ParameterTemplates
namespace Template
open Text

theorem mem_precedence (kind : ShapeKind) : kind ∈ precedence := by
  cases kind <;> decide

/-- The first shape that a template has when the shapes are tried in a given order. -/
def firstShape? (order : List ShapeKind) (expression : Text) : Option Shape :=
  order.findSome? (read? · expression)

theorem written_of_firstShape? {order : List ShapeKind} {expression : Text} {shape : Shape}
    (h : firstShape? order expression = some shape) : Written shape expression := by
  obtain ⟨kind, -, hk⟩ := List.exists_of_findSome?_eq_some h
  exact (read?_eq_some_iff.mp hk).2

theorem firstShape?_eq_none_iff {order : List ShapeKind} (hall : ∀ kind, kind ∈ order)
    {expression : Text} : firstShape? order expression = none ↔
      ∀ shape, ¬Written shape expression := by
  rw [firstShape?, List.findSome?_eq_none_iff]
  constructor
  · intro h shape hs
    have := read?_eq_some_iff.mpr ⟨rfl, hs⟩
    rw [h shape.kind (hall _)] at this
    contradiction
  · intro h kind _
    rw [Option.eq_none_iff_forall_ne_some]
    intro shape hs
    exact h shape (read?_eq_some_iff.mp hs).2

/-- Where a shape is found, no kind that was tried before its own has been found. -/
theorem read?_eq_none_of_idxOf_lt {order : List ShapeKind} {expression : Text} {shape : Shape}
    (h : firstShape? order expression = some shape) {kind : ShapeKind}
    (hlt : order.idxOf kind < order.idxOf shape.kind) : read? kind expression = none := by
  obtain ⟨before, k, rest, horder, hk, hnone⟩ := List.findSome?_eq_some_iff.mp h
  obtain ⟨rfl, -⟩ := read?_eq_some_iff.mp hk
  refine hnone kind ?_
  by_contra hmem
  have hfound : order.idxOf shape.kind ≤ before.length := by
    rw [horder, List.idxOf_append]
    split
    · next hs => exact (List.idxOf_lt_length_of_mem hs).le
    · simp
  have hlate : before.length ≤ order.idxOf kind := by
    rw [horder, List.idxOf_append, if_neg hmem]
    exact Nat.le_add_left _ _
  omega

theorem written_of_classify? {expression : Text} {shape : Shape}
    (h : classify? expression = some shape) : Written shape expression :=
  written_of_firstShape? h

theorem classify?_eq_none_iff {expression : Text} :
    classify? expression = none ↔ ∀ shape, ¬Written shape expression :=
  firstShape?_eq_none_iff mem_precedence

/-- What is read behind a name is what stands there. -/
theorem Written.after {shape : Shape} {expression name rest : Text}
    (h : Written shape expression) (href : Refers expression name rest) (hr : SolidHead rest)
    (hr' : ∀ c ∈ rest.head?, isNameChar c = false) : WrittenAfter name rest shape := by
  have hread := read?_eq_some_iff.mpr ⟨rfl, h⟩
  rw [href.read?_eq hr hr'] at hread
  exact (readAfter?_eq_some_iff.mp hread).2

theorem Refers.written_iff {shape : Shape} {expression name rest : Text}
    (href : Refers expression name rest) (hr : SolidHead rest)
    (hr' : ∀ c ∈ rest.head?, isNameChar c = false) :
    Written shape expression ↔ WrittenAfter name rest shape := by
  constructor
  · intro h
    exact h.after href hr hr'
  · intro h
    exact Template.written_iff.mpr ⟨name, rest, href, h⟩

theorem Written.after_comparison {shape : Shape} {expression name body : Text}
    (h : Written shape expression) (href : Refers expression name (['=', '='] ++ body)) :
    WrittenAfter name (['=', '='] ++ body) shape :=
  h.after href (solidHead_cons.mpr (by decide)) (by simp; decide)

/-- A right side, a question mark and two branches, with blanks around each. -/
def IsChoice (t rhs x y : Text) : Prop :=
  IsOperand rhs ∧ IsOperand x ∧ IsOperand y ∧ ∃ c d e f g h, IsGap c ∧ IsGap d ∧ IsGap e ∧
    IsGap f ∧ IsGap g ∧ IsGap h ∧ t = c ++ rhs ++ d ++ '?' :: (e ++ x ++ f ++ ':' :: (g ++ y ++ h))

theorem IsChoice.writtenAfter {name t rhs x y : Text} (h : IsChoice t rhs x y) :
    WrittenAfter name (['=', '='] ++ t) (.ternary name rhs x y) := by
  obtain ⟨ho, hx, hy, c, d, e, f, g, i, hc, hd, he, hf, hg, hi, rfl⟩ := h
  exact .ternary ho hx hy hc hd he hf hg hi

/-- Behind an operand the search for a question mark comes to the one that follows it. -/
theorem hasOpenQuestion_trim {c d rhs : Text} (hc : IsGap c) (hd : IsGap d) (ho : IsOperand rhs)
    (rest : Text) : hasOpenQuestion (trim (c ++ rhs ++ d ++ '?' :: rest)) = true := by
  have hsplit : c ++ rhs ++ d ++ '?' :: rest = c ++ (rhs ++ d ++ ['?']) ++ rest := by simp
  have hhead : SolidHead (rhs ++ d ++ ['?']) := by
    rw [List.append_assoc]
    exact (solidHead_append ho.ne_nil _).mpr ho.solidHead
  have hlast : SolidLast (rhs ++ d ++ ['?']) :=
    (solidLast_append _ (by simp)).mpr (solidLast_singleton.mpr (by decide))
  rw [hsplit, trim_gap_append hc (by simp) hhead hlast, List.append_assoc, List.singleton_append]
  exact hasOpenQuestion_operand ho hd _

/-- A comparison with a character in it that is in no reference is an equality or a choice, and
the search for a question mark tells which. -/
theorem WrittenAfter.of_foreign {name body : Text} {shape : Shape} {c : Char} (hc : c ∈ body)
    (hf : IsForeign c) (h : WrittenAfter name (['=', '='] ++ body) shape) :
    (shape = .equality name (trim body) ∧ '\n' ∉ trim body ∧
      hasOpenQuestion (trim body) = false) ∨
    (∃ rhs x y, shape = .ternary name rhs x y ∧ IsChoice body rhs x y) ∧
      hasOpenQuestion (trim body) = true := by
  generalize htext : ['=', '='] ++ body = text at h
  cases h with
  | identity => simp at htext
  | literalTernary => simp at htext
  | @equality _ rhs hrhs hopen =>
    obtain rfl := List.append_cancel_left htext
    obtain ⟨rfl, hline⟩ := hrhs.eq_trim (List.ne_nil_of_mem (mem_trim hc hf.1))
    exact .inl ⟨rfl, hline, hopen⟩
  | @dualEquality right e g hr he hg =>
    obtain rfl := List.append_cancel_left htext
    have href := reference?_eq_some_iff.mpr ⟨e, g, he, hg, hr, rfl⟩
    rw [reference?_eq_none hc hf] at href
    contradiction
  | @ternary rhs x y b d e g i j ho hx hy hb hd he hg hi hj =>
    obtain rfl := List.append_cancel_left htext
    exact .inr ⟨⟨rhs, x, y, rfl, ho, hx, hy, b, d, e, g, i, j, hb, hd, he, hg, hi, hj, rfl⟩,
      hasOpenQuestion_trim hb hd ho _⟩

/-- A condition with a question mark behind it: what follows is read as the branches of the choice
or not at all. -/
theorem WrittenAfter.of_condition {name rhs c d rest : Text} {shape : Shape} (ho : IsOperand rhs)
    (hc : IsGap c) (hd : IsGap d)
    (h : WrittenAfter name (['=', '='] ++ (c ++ rhs ++ d ++ '?' :: rest)) shape) :
    ∃ x y, shape = .ternary name rhs x y := by
  have hopen := hasOpenQuestion_trim hc hd ho rest
  rcases h.of_foreign (by simp) isForeign_question with
    ⟨-, -, hclosed⟩ | ⟨⟨rhs', x, y, rfl, hchoice⟩, -⟩
  · rw [hopen] at hclosed
    contradiction
  · obtain ⟨ho', -, -, c', d', _, _, _, _, hc', hd', -, -, -, -, hbody⟩ := hchoice
    obtain ⟨rfl, -⟩ := operand_append_cancel (by decide) hc hd ho hc' hd' ho' hbody
    exact ⟨x, y, rfl⟩

/-- Behind a name stands nothing, a question mark, or a comparison. -/
theorem WrittenAfter.opening {name rest : Text} {shape : Shape} (h : WrittenAfter name rest shape) :
    rest = [] ∧ shape.kind = .identity ∨
    (∃ t, rest = ['?'] ++ t ∧ shape.kind = .literalTernary) ∨
    ∃ t, rest = ['=', '='] ++ t ∧
      (shape.kind = .ternary → '?' ∈ t) ∧
      (shape.kind = .equality ∨ shape.kind = .dualEquality ∨ shape.kind = .ternary) := by
  cases h with
  | identity => exact .inl ⟨rfl, rfl⟩
  | equality => exact .inr (.inr ⟨_, rfl, by simp [Shape.kind], .inl rfl⟩)
  | dualEquality => exact .inr (.inr ⟨_, rfl, by simp [Shape.kind], .inr (.inl rfl)⟩)
  | ternary => exact .inr (.inr ⟨_, rfl, by simp, .inr (.inr rfl)⟩)
  | literalTernary => exact .inr (.inl ⟨_, rfl, rfl⟩)

/-- What stands behind a name is of one kind, save that the right side of an equality may be a
reference. -/
theorem WrittenAfter.kind_eq_or {name rest : Text} {s t : Shape} (hs : WrittenAfter name rest s)
    (ht : WrittenAfter name rest t) : s.kind = t.kind ∨
      s.kind = .equality ∧ t.kind = .dualEquality ∨
      s.kind = .dualEquality ∧ t.kind = .equality := by
  rcases hs.opening with ⟨rfl, hk⟩ | ⟨r, rfl, hk⟩ | ⟨r, rfl, hsq, hk⟩
  · rcases ht.opening with ⟨-, hk'⟩ | ⟨r', h, -⟩ | ⟨r', h, -⟩
    · exact .inl (hk.trans hk'.symm)
    · simp at h
    · simp at h
  · rcases ht.opening with ⟨h, -⟩ | ⟨r', -, hk'⟩ | ⟨r', h, -⟩
    · simp at h
    · exact .inl (hk.trans hk'.symm)
    · simp at h
  · rcases ht.opening with ⟨h, -⟩ | ⟨r', h, -⟩ | ⟨r', h, htq, hk'⟩
    · simp at h
    · simp at h
    · obtain rfl := List.append_cancel_left h
      by_cases hq : '?' ∈ r
      · rcases hs.of_foreign hq isForeign_question with ⟨rfl, -, h₁⟩ | ⟨⟨_, _, _, rfl, -⟩, h₁⟩ <;>
          rcases ht.of_foreign hq isForeign_question with ⟨rfl, -, h₂⟩ | ⟨⟨_, _, _, rfl, -⟩, h₂⟩ <;>
          simp_all [Shape.kind]
      · rcases hk with hk | hk | hk <;> rcases hk' with hk' | hk' | hk' <;> simp_all

/-- Two shapes of one text are the same or an equality and a dual equality. -/
theorem Written.eq_or {expression : Text} {s t : Shape} (hs : Written s expression)
    (ht : Written t expression) : s = t ∨
      s.kind = .equality ∧ t.kind = .dualEquality ∨
      s.kind = .dualEquality ∧ t.kind = .equality := by
  obtain ⟨name, rest, href, hw⟩ := written_iff.mp hs
  rcases hw.kind_eq_or (ht.after href hw.solidHead hw.stopsName) with hk | hk
  · exact .inl (hs.unique hk ht)
  · exact .inr hk

section Order

variable {order : List ShapeKind} {expression : Text} {s t : Shape}

theorem kind_of_firstShape? (hlt : order.idxOf .dualEquality < order.idxOf .equality)
    (h : firstShape? order expression = some s) (ht : Written t expression)
    (hk : t.kind = .dualEquality) : s.kind ≠ .equality := by
  have hread := read?_eq_some_iff.mpr ⟨hk, ht⟩
  intro hs
  rw [read?_eq_none_of_idxOf_lt h (by rwa [hs])] at hread
  contradiction

/-- An order that tries every shape finds every template, and prefers a reference as right side if
the dual equality is tried before the equality. -/
theorem firstShape?_eq_some_iff (hall : ∀ kind, kind ∈ order)
    (hlt : order.idxOf .dualEquality < order.idxOf .equality) :
    firstShape? order expression = some s ↔ Written s expression ∧
      (s.kind = .equality → ∀ t, Written t expression → t.kind ≠ .dualEquality) := by
  constructor
  · intro h
    exact ⟨written_of_firstShape? h, fun hk t ht hdual => kind_of_firstShape? hlt h ht hdual hk⟩
  · rintro ⟨hs, hfirst⟩
    cases ht : firstShape? order expression with
    | none => exact absurd hs ((firstShape?_eq_none_iff hall).mp ht s)
    | some t =>
      rcases hs.eq_or (written_of_firstShape? ht) with rfl | ⟨hk, hdual⟩ | ⟨hdual, hk⟩
      · rfl
      · exact absurd hdual (hfirst hk t (written_of_firstShape? ht))
      · exact absurd hk (kind_of_firstShape? hlt ht hs hdual)

theorem classify?_eq_some_iff : classify? expression = some s ↔ Written s expression ∧
    (s.kind = .equality → ∀ t, Written t expression → t.kind ≠ .dualEquality) :=
  firstShape?_eq_some_iff mem_precedence (by decide)

end Order

/-- A choice on whether a parameter equals an operand, with any text behind its question mark. -/
def choiceText (name rhs a b c d rest : Text) : Text :=
  openMark ++ a ++ referTo name ++ b ++ ['=', '='] ++ c ++ rhs ++ d ++ ['?'] ++ rest ++ closeMark

theorem ternary_of_written_choice {name rhs a b c d rest : Text} {shape : Shape}
    (hn : IsName name) (ho : IsOperand rhs) (ha : IsGap a) (hb : IsGap b) (hc : IsGap c)
    (hd : IsGap d) (h : Written shape (choiceText name rhs a b c d rest)) :
    ∃ x y, shape = .ternary name rhs x y := by
  have htext : choiceText name rhs a b c d rest =
      openMark ++ (a ++ referTo name ++ b ++ (['=', '='] ++ (c ++ rhs ++ d ++ '?' :: rest))) ++
        closeMark := by
    simp [choiceText]
  exact (h.after_comparison ⟨a, b, hn, ha, hb, htext⟩).of_condition ho hc hd

end Template

open Template

theorem classify_eq_ok_iff {expression : Text} {shape : Shape} :
    (classify expression).outcome = .ok shape ↔ classify? expression = some shape := by
  rw [classify_outcome]
  cases classify? expression <;> simp

theorem classify_eq_error_iff {expression : Text} :
    (classify expression).outcome = .error (.structural expression .unsupported) ↔
      classify? expression = none := by
  rw [classify_outcome]
  cases classify? expression <;> simp

theorem classify?_eq_none_of_error {expression : Text} {e : ResolveError}
    (h : (classify expression).outcome = .error e) : classify? expression = none := by
  rw [classify_outcome] at h
  cases hs : classify? expression with
  | none => rfl
  | some s => simp [hs] at h

/-- Of an expression that is read as a choice the answer has the type that is wanted. -/
theorem type_of_resolve_ternary {table : Table} {wanted : ValueType} {expression : Text}
    {name rhs x y : Text} {v : Scalar} (hs : classify? expression = some (.ternary name rhs x y))
    (h : (resolve table wanted expression).outcome = .ok v) : v.type = wanted := by
  rw [resolve_outcome, hs] at h
  exact type_of_evaluateTernary h

/-- A choice on a condition is that choice or an error, whatever text its question mark is followed
by, and it does not answer with a boolean where none is wanted. -/
theorem choice_never_misread {name rhs a b c d : Text} (hn : IsName name) (ho : IsOperand rhs)
    (ha : IsGap a) (hb : IsGap b) (hc : IsGap c) (hd : IsGap d) (rest : Text) :
    ((∃ x y, (classify (choiceText name rhs a b c d rest)).outcome =
        .ok (.ternary name rhs x y)) ∨
      (classify (choiceText name rhs a b c d rest)).outcome =
        .error (.structural (choiceText name rhs a b c d rest) .unsupported)) ∧
    ∀ table wanted, wanted ≠ .boolean → ∀ v,
      (resolve table wanted (choiceText name rhs a b c d rest)).outcome ≠ .ok (.boolean v) := by
  rw [classify_outcome]
  cases hs : classify? (choiceText name rhs a b c d rest) with
  | none =>
    refine ⟨.inr rfl, fun table wanted _ v h => ?_⟩
    rw [resolve_outcome, hs] at h
    contradiction
  | some shape =>
    obtain ⟨x, y, rfl⟩ :=
      ternary_of_written_choice hn ho ha hb hc hd (written_of_classify? hs)
    refine ⟨.inl ⟨x, y, rfl⟩, fun table wanted hw v h => ?_⟩
    exact hw (type_of_resolve_ternary hs h).symm

/-- An escaped quote in the operand, and an open quote, a line end and marks behind the question
mark. -/
theorem choice_never_misread_open_quote :
    let expression := choiceText ['n'] ['"', '\\', '"', '?', '"'] [' '] [] ['\n'] [' ']
      ['"', '?', '\n', '}', '}', '{', '{', ':', '?']
    ((∃ x y, (classify expression).outcome =
        .ok (.ternary ['n'] ['"', '\\', '"', '?', '"'] x y)) ∨
      (classify expression).outcome = .error (.structural expression .unsupported)) ∧
    ∀ table wanted, wanted ≠ .boolean → ∀ v,
      (resolve table wanted expression).outcome ≠ .ok (.boolean v) :=
  choice_never_misread (by decide) (by decide) (by decide) (by decide) (by decide) (by decide) _

end ParameterTemplates
