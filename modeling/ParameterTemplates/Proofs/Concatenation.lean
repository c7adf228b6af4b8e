import ParameterTemplates.Proofs.Classification
import ParameterTemplates.Proofs.Literal

/-! Text behind a template that ends with a closing mark of its own, such as a second template.
The marks are searched for at both ends only, so a bare last branch and the right side of a
comparison may go on over that text; nothing else does. -/
namespace ParameterTemplates
namespace Template
open Text

/-- Whether a shape compares a parameter and does nothing with the result. -/
def Shape.IsComparison : Shape → Prop
  | .equality _ _ => True
  | .dualEquality _ _ => True
  | _ => False

/-- How a template goes on over the text behind it: the first text is the template, the second is
what stands behind it without the mark at the very end. -/
inductive Swallows (first glued : Text) : Shape → Shape → Prop where
  | literalTernary {name x y g : Text} : IsBareOperand y → (∀ c ∈ glued, isBare c = true) →
      IsGap g → y ++ g ++ closeMark <:+ first →
      Swallows first glued (.literalTernary name x y)
        (.literalTernary name x (dropBlanksRight (y ++ g ++ closeMark ++ glued)))
  | ternary {name rhs x y g : Text} : IsBareOperand y → (∀ c ∈ glued, isBare c = true) →
      IsGap g → y ++ g ++ closeMark <:+ first →
      Swallows first glued (.ternary name rhs x y)
        (.ternary name rhs x (dropBlanksRight (y ++ g ++ closeMark ++ glued)))
  | equality {s₁ : Shape} {name body : Text} : s₁.IsComparison →
      Refers first name (['=', '='] ++ body) → '\n' ∉ trim (body ++ closeMark ++ glued) →
      hasOpenQuestion (trim (body ++ closeMark ++ glued)) = false →
      Swallows first glued s₁ (.equality name (trim (body ++ closeMark ++ glued)))
  | choice {s₁ : Shape} {name body rhs x y : Text} : s₁.IsComparison →
      Refers first name (['=', '='] ++ body) → IsChoice (body ++ closeMark ++ glued) rhs x y →
      Swallows first glued s₁ (.ternary name rhs x y)

theorem solidHead_closeMark (t : Text) : SolidHead (closeMark ++ t) :=
  solidHead_cons.mpr (by decide)

theorem stopsName_closeMark (t : Text) : ∀ c ∈ (closeMark ++ t).head?, isNameChar c = false := by
  intro c hc
  obtain rfl : '}' = c := by simpa [closeMark] using hc
  decide

theorem isBare_of_mem_closeMark : ∀ c ∈ closeMark, isBare c = true :=
  List.all_eq_true.mp (by decide)

theorem Refers.glue {first name rest : Text} (h : Refers first name rest) (glued : Text) :
    Refers (first ++ glued ++ closeMark) name (rest ++ closeMark ++ glued) := by
  obtain ⟨a, b, hn, ha, hb, rfl⟩ := h
  exact ⟨a, b, hn, ha, hb, by simp⟩

/-- Behind a last branch only its blanks and the closing mark are left. -/
theorem gap_suffix_cancel {t g h e : Text} (ht : SolidLast t) (hn : t ≠ []) (hg : IsGap g)
    (hh : IsGap h) (h₁ : t ++ g ++ closeMark <:+ e) (h₂ : t ++ h ++ closeMark <:+ e) : g = h := by
  obtain ⟨p, rfl⟩ := h₁
  obtain ⟨q, hq⟩ := h₂
  have hpq : q ++ t ++ h = p ++ t ++ g := by simpa [← List.append_assoc] using hq
  have hcut : q ++ t = p ++ t := by
    rw [← dropBlanksRight_eq ((solidLast_append q hn).mpr ht) hh, hpq,
      dropBlanksRight_eq ((solidLast_append p hn).mpr ht) hg]
  rw [hcut] at hpq
  exact (List.append_cancel_left hpq).symm

/-- A last branch with its mark and more text behind it. -/
theorem lastOperand?_glued_iff {a y b glued o : Text} (ha : IsGap a) (hb : IsGap b)
    (hy : IsOperand y) : lastOperand? (a ++ y ++ b ++ (closeMark ++ glued)) = some o ↔
      IsBareOperand y ∧ (∀ c ∈ glued, isBare c = true) ∧
        o = dropBlanksRight (y ++ b ++ closeMark ++ glued) := by
  have hmark : (∀ c ∈ closeMark ++ glued, isBare c = true) ↔ ∀ c ∈ glued, isBare c = true := by
    simp only [List.mem_append, or_imp, forall_and, and_iff_right_iff_imp]
    intro _
    exact isBare_of_mem_closeMark
  rw [lastOperand?_append_iff ha hb hy (solidHead_closeMark glued) (by simp [closeMark]), hmark,
    List.append_assoc (y ++ b)]

/-- A choice between two branches is read by its last one. -/
theorem writtenAfter_literalTernary_iff {x c d : Text} (hx : IsOperand x) (hc : IsGap c)
    (hd : IsGap d) (name r : Text) (shape : Shape) :
    WrittenAfter name (['?'] ++ (c ++ x ++ d ++ ':' :: r)) shape ↔
      ∃ y, lastOperand? r = some y ∧ shape = .literalTernary name x y := by
  constructor
  · intro h
    generalize htext : ['?'] ++ (c ++ x ++ d ++ ':' :: r) = text at h
    cases h with
    | identity => simp at htext
    | equality => simp at htext
    | dualEquality => simp at htext
    | ternary => simp at htext
    | @literalTernary x' y c' d' e f hx' hy hc' hd' he hf =>
      have hbody := List.append_cancel_left htext
      obtain ⟨rfl, rfl⟩ := operand_append_cancel (by decide) hc hd hx hc' hd' hx' hbody
      exact ⟨y, lastOperand?_eq_some_iff.mpr ⟨e, f, he, hf, hy, rfl⟩, rfl⟩
  · rintro ⟨y, hlast, rfl⟩
    obtain ⟨e, f, he, hf, hy, rfl⟩ := lastOperand?_eq_some_iff.mp hlast
    exact .literalTernary hx hy hc hd he hf

theorem writtenAfter_ternary_iff {rhs x c d e f : Text} (ho : IsOperand rhs) (hx : IsOperand x)
    (hc : IsGap c) (hd : IsGap d) (he : IsGap e) (hf : IsGap f) (name r : Text) (shape : Shape) :
    WrittenAfter name (['=', '='] ++ (c ++ rhs ++ d ++ '?' :: (e ++ x ++ f ++ ':' :: r))) shape ↔
      ∃ y, lastOperand? r = some y ∧ shape = .ternary name rhs x y := by
  constructor
  · intro h
    rcases h.of_foreign (by simp) isForeign_question with
      ⟨-, -, hclosed⟩ | ⟨⟨rhs', x', y, rfl, hchoice⟩, -⟩
    · rw [hasOpenQuestion_trim hc hd ho] at hclosed
      contradiction
    · obtain ⟨ho', hx', hy, c', d', e', f', g, i, hc', hd', he', hf', hg, hi, hbody⟩ := hchoice
      obtain ⟨rfl, hrest⟩ := operand_append_cancel (by decide) hc hd ho hc' hd' ho' hbody
      obtain ⟨rfl, rfl⟩ := operand_append_cancel (by decide) he hf hx he' hf' hx' hrest
      exact ⟨y, lastOperand?_eq_some_iff.mpr ⟨g, i, hg, hi, hy, rfl⟩, rfl⟩
  · rintro ⟨y, hlast, rfl⟩
    obtain ⟨g, i, hg, hi, hy, rfl⟩ := lastOperand?_eq_some_iff.mp hlast
    exact .ternary ho hx hy hc hd he hf hg hi

theorem Refers.suffix {expression name p e q : Text} (h : Refers expression name (p ++ (e ++ q))) :
    q ++ closeMark <:+ expression := by
  obtain ⟨a, b, -, -, -, rfl⟩ := h
  exact ⟨openMark ++ a ++ referTo name ++ b ++ p ++ e, by simp⟩

theorem Swallows.kind_ne {first glued : Text} {s₁ s : Shape} (h : Swallows first glued s₁ s) :
    s.kind ≠ .dualEquality := by
  cases h <;> simp [Shape.kind]

section Glued

variable {first glued name : Text} {s₁ s : Shape}

/-- A template that is read by its last branch: with more text behind it that branch goes on over
all of the text, or nothing is read. -/
theorem written_glued_branch_iff {c : Char} {p e y f : Text} {shape : Text → Shape}
    (href : Refers first name (c :: p ++ (e ++ (y ++ f)))) (hc : isBlank c = false)
    (hc' : isNameChar c = false) (hread : ∀ r s, WrittenAfter name (c :: p ++ r) s ↔
      ∃ o, lastOperand? r = some o ∧ s = shape o)
    (he : IsGap e) (hf : IsGap f) (hy : IsOperand y) :
    Written s (first ++ glued ++ closeMark) ↔ IsBareOperand y ∧ (∀ d ∈ glued, isBare d = true) ∧
      s = shape (dropBlanksRight (y ++ f ++ closeMark ++ glued)) := by
  have htext : c :: p ++ (e ++ (y ++ f)) ++ closeMark ++ glued =
      c :: p ++ (e ++ y ++ f ++ (closeMark ++ glued)) := by
    simp
  have hglue := href.glue glued
  rw [htext] at hglue
  rw [hglue.written_iff (solidHead_cons.mpr hc) (by simpa using hc'), hread]
  constructor
  · rintro ⟨o, hlast, rfl⟩
    obtain ⟨hbare, hall, rfl⟩ := (lastOperand?_glued_iff he hf hy).mp hlast
    exact ⟨hbare, hall, rfl⟩
  · rintro ⟨hbare, hall, rfl⟩
    exact ⟨_, (lastOperand?_glued_iff he hf hy).mpr ⟨hbare, hall, rfl⟩, rfl⟩

theorem written_glued_literalTernary_iff {x y c d e f : Text}
    (href : Refers first name (['?'] ++ (c ++ x ++ d ++ ':' :: (e ++ y ++ f))))
    (hx : IsOperand x) (hy : IsOperand y) (hc : IsGap c) (hd : IsGap d) (he : IsGap e)
    (hf : IsGap f) : Written s (first ++ glued ++ closeMark) ↔
      Swallows first glued (.literalTernary name x y) s := by
  have href' : Refers first name ('?' :: (c ++ x ++ d ++ [':']) ++ (e ++ (y ++ f))) := by
    simpa using href
  have hread : ∀ r s, WrittenAfter name ('?' :: (c ++ x ++ d ++ [':']) ++ r) s ↔
      ∃ o, lastOperand? r = some o ∧ s = .literalTernary name x o := by
    intro r s
    simpa using writtenAfter_literalTernary_iff hx hc hd name r s
  rw [written_glued_branch_iff href' (by decide) (by decide) hread he hf hy]
  constructor
  · rintro ⟨hbare, hall, rfl⟩
    exact .literalTernary hbare hall hf href'.suffix
  · intro h
    cases h with
    | literalTernary hbare hall hg hsuffix =>
      obtain rfl := gap_suffix_cancel hbare.last hbare.nonempty hg hf hsuffix href'.suffix
      exact ⟨hbare, hall, rfl⟩
    | equality hk => exact hk.elim
    | choice hk => exact hk.elim

theorem written_glued_ternary_iff {rhs x y c d e f g i : Text}
    (href : Refers first name
      (['=', '='] ++ (c ++ rhs ++ d ++ '?' :: (e ++ x ++ f ++ ':' :: (g ++ y ++ i)))))
    (ho : IsOperand rhs) (hx : IsOperand x) (hy : IsOperand y) (hc : IsGap c) (hd : IsGap d)
    (he : IsGap e) (hf : IsGap f) (hg : IsGap g) (hi : IsGap i) :
    Written s (first ++ glued ++ closeMark) ↔ Swallows first glued (.ternary name rhs x y) s := by
  have href' : Refers first name
      ('=' :: ('=' :: (c ++ rhs ++ d ++ '?' :: (e ++ x ++ f ++ [':']))) ++ (g ++ (y ++ i))) := by
    simpa using href
  have hread : ∀ r s, WrittenAfter name
      ('=' :: ('=' :: (c ++ rhs ++ d ++ '?' :: (e ++ x ++ f ++ [':']))) ++ r) s ↔
        ∃ o, lastOperand? r = some o ∧ s = .ternary name rhs x o := by
    intro r s
    simpa using writtenAfter_ternary_iff ho hx hc hd he hf name r s
  rw [written_glued_branch_iff href' (by decide) (by decide) hread hg hi hy]
  constructor
  · rintro ⟨hbare, hall, rfl⟩
    exact .ternary hbare hall hi href'.suffix
  · intro h
    cases h with
    | ternary hbare hall hg' hsuffix =>
      obtain rfl := gap_suffix_cancel hbare.last hbare.nonempty hg' hi hsuffix href'.suffix
      exact ⟨hbare, hall, rfl⟩
    | equality hk => exact hk.elim
    | choice hk => exact hk.elim

theorem closing_mem_glued (body glued : Text) : '}' ∈ body ++ closeMark ++ glued := by
  simp [closeMark]

theorem written_glued_comparison_iff {body : Text} (hk : s₁.IsComparison)
    (href : Refers first name (['=', '='] ++ body)) :
    Written s (first ++ glued ++ closeMark) ↔ Swallows first glued s₁ s := by
  have htext (t : Text) : ['=', '='] ++ t ++ closeMark ++ glued =
      ['=', '='] ++ (t ++ closeMark ++ glued) := by
    simp
  have hglue {n t : Text} (h : Refers first n (['=', '='] ++ t)) :
      Refers (first ++ glued ++ closeMark) n (['=', '='] ++ (t ++ closeMark ++ glued)) := by
    rw [← htext]
    exact h.glue glued
  constructor
  · intro h
    have hafter := h.after_comparison (hglue href)
    rcases hafter.of_foreign (closing_mem_glued body glued) isForeign_closing with
      ⟨rfl, hline, hopen⟩ | ⟨⟨rhs, x, y, rfl, hchoice⟩, -⟩
    · exact .equality hk href hline hopen
    · exact .choice hk href hchoice
  · intro h
    cases h with
    | literalTernary => exact hk.elim
    | ternary => exact hk.elim
    | @equality _ n t _ href' hline hopen =>
      have hne := List.ne_nil_of_mem (mem_trim (closing_mem_glued t glued) isForeign_closing.1)
      exact written_iff.mpr
        ⟨n, _, hglue href', .equality (isRightSide_trim hne hline) hopen⟩
    | choice _ href' hchoice => exact written_iff.mpr ⟨_, _, hglue href', hchoice.writtenAfter⟩

/-- What is read of a template with more text behind it. -/
theorem written_glued_iff (h₁ : Written s₁ first) :
    Written s (first ++ glued ++ closeMark) ↔ Swallows first glued s₁ s := by
  obtain ⟨name, rest, href, hw⟩ := written_iff.mp h₁
  cases hw with
  | identity =>
    constructor
    · intro h
      -- a closing mark right behind the name opens nothing
      have hafter := h.after (href.glue glued) (solidHead_closeMark glued)
        (stopsName_closeMark glued)
      rcases hafter.head '}' rfl with h | h <;> contradiction
    · intro h
      cases h with
      | equality hk => exact hk.elim
      | choice hk => exact hk.elim
  | equality => exact written_glued_comparison_iff trivial href
  | dualEquality => exact written_glued_comparison_iff trivial href
  | ternary ho hx hy hc hd he hf hg hi =>
    exact written_glued_ternary_iff href ho hx hy hc hd he hf hg hi
  | literalTernary hx hy hc hd he hf =>
    exact written_glued_literalTernary_iff href hx hy hc hd he hf

theorem classify?_glued_eq_some_iff (h₁ : Written s₁ first) :
    classify? (first ++ glued ++ closeMark) = some s ↔ Swallows first glued s₁ s := by
  rw [classify?_eq_some_iff, written_glued_iff h₁, and_iff_left_iff_imp]
  intro _ _ t ht
  exact ((written_glued_iff h₁).mp ht).kind_ne

end Glued

end Template
open Text Template

/-- A closing mark makes a literal a text in quotes. -/
theorem Literal.inQuotes_of_coerce {type : ValueType} {t : Text} {v : Scalar}
    (h : Literal.coerce type t = .ok v) (hc : '}' ∈ t) : ∃ u, t = inQuotes u := by
  obtain ⟨-, hread⟩ := Literal.coerce_eq_ok_iff.mp h
  obtain ⟨-, u, hu, -⟩ := Literal.inQuotes_of_read? hread hc (by decide)
  exact ⟨u, hu⟩

/-- A branch that goes on over a closing mark has no value. -/
theorem Table.branchValue_glued_ne_ok {y g glued : Text} (hy : IsBareOperand y)
    (hall : ∀ c ∈ glued, isBare c = true) (hg : IsGap g) (table : Table) (wanted : ValueType)
    (v : Scalar) :
    table.branchValue wanted (dropBlanksRight (y ++ g ++ closeMark ++ glued)) ≠ .ok v := by
  intro h
  have hmark := mem_dropBlanksRight (closing_mem_glued (y ++ g) glued) isForeign_closing.1
  have hbare : ∀ c ∈ dropBlanksRight (y ++ g ++ closeMark ++ glued), isBare c = true := by
    intro c hc
    have hc' := mem_of_mem_dropBlanksRight hc
    simp only [List.mem_append] at hc'
    rcases hc' with ((hc' | hc') | hc') | hc'
    · exact hy.bare c hc'
    · exact isBare_of_isBlank (hg c hc')
    · exact isBare_of_mem_closeMark c hc'
    · exact hall c hc'
  rw [branchValue, reference?_eq_none hmark isForeign_closing] at h
  obtain ⟨u, hu⟩ := Literal.inQuotes_of_coerce h hmark
  rw [hu] at hbare
  exact absurd (hbare '"' (by simp [inQuotes])) (by decide)

section Comparison

variable {first glued name body : Text} {s₁ : Shape}

/-- A quote that opens the right side and what is glued to it opens the right side itself. -/
theorem trim_eq_quote {a r : Text} (ha : IsGap a)
    (h : body ++ closeMark ++ glued = a ++ '"' :: r) : ∃ t, trim body = '"' :: t := by
  obtain ⟨b, d, hb, hd, hbody⟩ := exists_gaps_trim body
  have hquote : SolidHead ('"' :: r) := solidHead_cons.mpr (by decide)
  cases ht : trim body with
  | nil =>
    have hgap := trim_eq_nil_iff.mp ht
    rw [List.append_assoc] at h
    have := gap_append_cancel hgap ha (solidHead_closeMark glued) hquote h
    simp [closeMark] at this
  | cons c t =>
    have hsolid : SolidHead (c :: (t ++ d ++ (closeMark ++ glued))) := by
      have := solidHead_trim body
      rw [ht] at this
      exact solidHead_cons.mpr (solidHead_cons.mp this)
    have hsplit : b ++ c :: (t ++ d ++ (closeMark ++ glued)) = a ++ '"' :: r := by
      rw [← h, hbody, ht]
      simp
    obtain ⟨rfl, -⟩ := List.cons.inj (gap_append_cancel hb ha hsolid hquote hsplit)
    exact ⟨t, rfl⟩

/-- A comparison with a text that opens with a quote is an equality with that text. -/
theorem eq_equality_of_quote (h₁ : Written s₁ first) (hk : s₁.IsComparison)
    (href : Refers first name (['=', '='] ++ body)) {a r : Text} (ha : IsGap a)
    (h : body ++ closeMark ++ glued = a ++ '"' :: r) : ∃ t, s₁ = .equality name ('"' :: t) := by
  obtain ⟨t, ht⟩ := trim_eq_quote ha h
  have hmem : '"' ∈ body := by
    obtain ⟨b, d, -, -, hbody⟩ := exists_gaps_trim body
    rw [hbody, ht]
    simp
  have hafter := h₁.after_comparison href
  rcases hafter.of_foreign hmem isForeign_quote with ⟨rfl, -⟩ | ⟨⟨_, _, _, rfl, -⟩, -⟩
  · exact ⟨t, by rw [ht]⟩
  · exact hk.elim

/-- The right side of a choice that begins in a comparison goes on over the closing mark. -/
theorem closing_mem_of_isChoice (h₁ : Written s₁ first) (hk : s₁.IsComparison)
    (href : Refers first name (['=', '='] ++ body)) {rhs x y : Text}
    (h : IsChoice (body ++ closeMark ++ glued) rhs x y) : '}' ∈ rhs := by
  obtain ⟨ho, -, -, c, d, e, f, g, i, hc, hd, -, -, -, -, htext⟩ := h
  rw [List.append_assoc] at htext
  rcases List.append_eq_append_iff.mp htext with ⟨k, hk', hrest⟩ | ⟨k, hbody, hrest⟩
  · have hmem : '}' ∈ c ++ rhs ++ d := by
      cases k with
      | nil => simp [closeMark] at hrest
      | cons q k =>
        obtain ⟨rfl, -⟩ := List.cons.inj hrest
        rw [hk']
        simp
    simpa [hc.not_mem isForeign_closing.1, hd.not_mem isForeign_closing.1] using hmem
  · -- an open question mark in the right side makes the first template no comparison
    exfalso
    cases k with
    | nil => simp [closeMark] at hrest
    | cons q k =>
      obtain ⟨rfl, -⟩ := List.cons.inj hrest
      have hopen := hasOpenQuestion_trim hc hd ho k
      rw [← hbody] at hopen
      have hq : '?' ∈ body := by
        rw [hbody]
        simp
      have hafter := h₁.after_comparison href
      rcases hafter.of_foreign hq isForeign_question with ⟨-, -, h⟩ | ⟨⟨_, _, _, rfl, -⟩, -⟩
      · rw [hopen] at h
        contradiction
      · exact hk.elim

theorem quote_of_evaluateEquality {table : Table} {rhs : Text} {b : Bool}
    (h : (evaluateEquality table name rhs).outcome = .ok b) (hc : '}' ∈ rhs) :
    ∃ u, rhs = inQuotes u := by
  obtain ⟨p, type, left, right, -, -, -, hright, -⟩ := evaluateEquality_eq_ok_iff.mp h
  exact Literal.inQuotes_of_coerce hright hc

end Comparison

/-- With more text behind it a template answers only by a branch that ends before that text, or as
an equality with a text in quotes. -/
theorem resolve_glued {first glued : Text} {s₁ : Shape} (hs : classify? first = some s₁)
    {table : Table} {wanted : ValueType} {v : Scalar}
    (h : (resolve table wanted (first ++ glued ++ closeMark)).outcome = .ok v) :
    (s₁.kind = .ternary ∨ s₁.kind = .literalTernary) ∧
        (resolve table wanted first).outcome = .ok v ∨
      ∃ name t, s₁ = .equality name ('"' :: t) := by
  have h₁ := written_of_classify? hs
  rw [resolve_outcome] at h
  split at h
  · next s hc =>
    cases (classify?_glued_eq_some_iff h₁).mp hc with
    | literalTernary hy hall hg =>
      refine .inl ⟨.inr rfl, ?_⟩
      rw [resolve_outcome, hs]
      obtain ⟨c, hcond, hv⟩ := evaluateLiteralTernary_eq_ok_iff.mp h
      cases c with
      | true => exact evaluateLiteralTernary_eq_ok_iff.mpr ⟨true, hcond, hv⟩
      | false => exact absurd hv (table.branchValue_glued_ne_ok hy hall hg wanted v)
    | ternary hy hall hg =>
      refine .inl ⟨.inl rfl, ?_⟩
      rw [resolve_outcome, hs]
      obtain ⟨c, hcond, hv⟩ := evaluateTernary_eq_ok_iff.mp h
      cases c with
      | true => exact evaluateTernary_eq_ok_iff.mpr ⟨true, hcond, hv⟩
      | false => exact absurd hv (table.branchValue_glued_ne_ok hy hall hg wanted v)
    | @equality _ name body hk href =>
      obtain ⟨b, hb, -⟩ := evaluate_equality_eq_ok_iff.mp h
      obtain ⟨a, d, ha, -, htext⟩ := exists_gaps_trim (body ++ closeMark ++ glued)
      have hmark := mem_trim (closing_mem_glued body glued) isForeign_closing.1
      obtain ⟨u, hu⟩ := quote_of_evaluateEquality hb hmark
      rw [hu] at htext
      obtain ⟨t, ht⟩ := eq_equality_of_quote (r := u ++ '"' :: d) h₁ hk href ha
        (by simpa [inQuotes] using htext)
      exact .inr ⟨name, t, ht⟩
    | @choice _ name body rhs x y hk href hchoice =>
      obtain ⟨b, hb, -⟩ := evaluateTernary_eq_ok_iff.mp h
      obtain ⟨u, rfl⟩ := quote_of_evaluateEquality hb (closing_mem_of_isChoice h₁ hk href hchoice)
      obtain ⟨-, -, -, c, d, e, f, g, i, hc, -, -, -, -, -, htext⟩ := hchoice
      obtain ⟨t, ht⟩ := eq_equality_of_quote h₁ hk href hc
        (by rw [htext, inQuotes, List.append_assoc, List.append_assoc]; rfl)
      exact .inr ⟨name, t, ht⟩
  · contradiction

/-- Two templates with any text between them are read as one exactly where the first goes on over
the second. An answer is then the first template's own, by a branch that the second does not touch,
or that of a comparison with a text in quotes. -/
theorem concatenation_swallows_iff {e₁ e₂ : Text} {s₁ s₂ : Shape}
    (h₁ : (classify e₁).outcome = .ok s₁) (h₂ : (classify e₂).outcome = .ok s₂) (m : Text) :
    ∃ i, e₂ = openMark ++ i ++ closeMark ∧
      (∀ s, (classify (e₁ ++ m ++ e₂)).outcome = .ok s ↔
        Swallows e₁ (m ++ openMark ++ i) s₁ s) ∧
      ((∀ s, ¬Swallows e₁ (m ++ openMark ++ i) s₁ s) →
        (classify (e₁ ++ m ++ e₂)).outcome = .error (.structural (e₁ ++ m ++ e₂) .unsupported)) ∧
      ∀ table wanted v, (resolve table wanted (e₁ ++ m ++ e₂)).outcome = .ok v →
        (s₁.kind = .ternary ∨ s₁.kind = .literalTernary) ∧
            (resolve table wanted e₁).outcome = .ok v ∨
          ∃ name t, s₁ = .equality name ('"' :: t) := by
  have hs₁ := classify_eq_ok_iff.mp h₁
  obtain ⟨i, rfl⟩ := (written_of_classify? (classify_eq_ok_iff.mp h₂)).marked
  have htext : e₁ ++ m ++ (openMark ++ i ++ closeMark) =
      e₁ ++ (m ++ openMark ++ i) ++ closeMark := by
    simp
  rw [htext]
  have hswallows : ∀ s, (classify (e₁ ++ (m ++ openMark ++ i) ++ closeMark)).outcome = .ok s ↔
      Swallows e₁ (m ++ openMark ++ i) s₁ s := by
    intro s
    rw [classify_eq_ok_iff, classify?_glued_eq_some_iff (written_of_classify? hs₁)]
  refine ⟨i, rfl, hswallows, fun hnone => ?_, fun table wanted v h => resolve_glued hs₁ h⟩
  rw [classify_eq_error_iff, Option.eq_none_iff_forall_ne_some]
  intro s hs
  exact hnone s ((hswallows s).mp (classify_eq_ok_iff.mpr hs))

/-- A choice with a bare last branch, and a reference right behind it. -/
theorem concatenation_swallows_iff_flag :
    (classify "\x7b\x7b params.f ? \"x\" : y \x7d\x7d".toList).outcome =
      .ok (.literalTernary ['f'] (inQuotes ['x']) ['y']) ∧
    (classify "\x7b\x7b params.b \x7d\x7d".toList).outcome = .ok (.identity ['b']) ∧
    ∃ i, "\x7b\x7b params.b \x7d\x7d".toList = openMark ++ i ++ closeMark ∧
      ∀ s, (classify ("\x7b\x7b params.f ? \"x\" : y \x7d\x7d".toList ++ [] ++
          "\x7b\x7b params.b \x7d\x7d".toList)).outcome = .ok s ↔
        Swallows "\x7b\x7b params.f ? \"x\" : y \x7d\x7d".toList ([] ++ openMark ++ i)
          (.literalTernary ['f'] (inQuotes ['x']) ['y']) s := by
  have h₁ : (classify "\x7b\x7b params.f ? \"x\" : y \x7d\x7d".toList).outcome =
      .ok (.literalTernary ['f'] (inQuotes ['x']) ['y']) := by decide +kernel
  have h₂ : (classify "\x7b\x7b params.b \x7d\x7d".toList).outcome =
      .ok (.identity ['b']) := by decide +kernel
  obtain ⟨i, hi, hs, -⟩ := concatenation_swallows_iff h₁ h₂ []
  exact ⟨h₁, h₂, i, hi, hs⟩

/-- The reference becomes a part of the branch that is not taken, and the first template answers. -/
theorem concatenation_read_as_choice :
    (classify "\x7b\x7b params.f ? \"x\" : y \x7d\x7d".toList).outcome =
      .ok (.literalTernary ['f'] (inQuotes ['x']) ['y']) ∧
    (classify "\x7b\x7b params.b \x7d\x7d".toList).outcome = .ok (.identity ['b']) ∧
    (classify ("\x7b\x7b params.f ? \"x\" : y \x7d\x7d".toList ++ [] ++
        "\x7b\x7b params.b \x7d\x7d".toList)).outcome =
      .ok (.literalTernary ['f'] (inQuotes ['x']) "y \x7d\x7d\x7b\x7b params.b".toList) ∧
    (resolve (fun _ => some (.ofScalar (.boolean true))) .string
        ("\x7b\x7b params.f ? \"x\" : y \x7d\x7d".toList ++ [] ++
          "\x7b\x7b params.b \x7d\x7d".toList)).outcome = .ok (.string ['x']) := by
  decide +kernel

end ParameterTemplates
