import ParameterTemplates.Proofs.Operand
import ParameterTemplates.Proofs.Reference

/-! Reading a template of a given shape against the written forms of that shape: the reader takes
exactly the texts of the grammar, and a text is written in at most one way. -/
namespace ParameterTemplates.Template
open Text

theorem interior?_eq_some_iff {t i : Text} :
    interior? t = some i ↔ t = openMark ++ i ++ closeMark := by
  simp only [interior?, Option.bind_eq_some_iff, after?_eq_some_iff, before?_eq_some_iff]
  constructor
  · rintro ⟨r, rfl, rfl⟩
    rw [List.append_assoc]
  · rintro rfl
    exact ⟨i ++ closeMark, List.append_assoc _ _ _, rfl⟩

theorem branches?_eq_some_iff {t x y : Text} : branches? t = some (x, y) ↔
    ∃ a b c d, IsGap a ∧ IsGap b ∧ IsGap c ∧ IsGap d ∧ IsOperand x ∧ IsOperand y ∧
      t = a ++ x ++ b ++ ':' :: (c ++ y ++ d) := by
  simp only [branches?, Option.bind_eq_bind, Option.bind_eq_some_iff, Option.pure_def,
    Option.some.injEq, Prod.mk.injEq, Prod.exists,
    operandBefore?_eq_some_iff (show isBare ':' = false by decide), lastOperand?_eq_some_iff]
  constructor
  · rintro ⟨x, r, ⟨a, b, ha, hb, hx, rfl⟩, y, ⟨c, d, hc, hd, hy, rfl⟩, rfl, rfl⟩
    exact ⟨a, b, c, d, ha, hb, hc, hd, hx, hy, rfl⟩
  · rintro ⟨a, b, c, d, ha, hb, hc, hd, hx, hy, rfl⟩
    exact ⟨x, _, ⟨a, b, ha, hb, hx, rfl⟩, y, ⟨c, d, hc, hd, hy, rfl⟩, rfl, rfl⟩

theorem rightSide?_of_blank {t : Text} (ht : IsGap t) :
    rightSide? t = (t.reverse.find? (· != '\n')).map ([·]) := by
  rw [rightSide?, trim_eq_nil_iff.mpr ht]

theorem rightSide?_of_trim {t : Text} (ht : trim t ≠ []) :
    rightSide? t = if '\n' ∈ trim t then none else some (trim t) := by
  unfold rightSide?
  split
  · contradiction
  · rfl

theorem isRightSide_of_rightSide? {t rhs : Text} (h : rightSide? t = some rhs) :
    IsRightSide t rhs := by
  by_cases ht : trim t = []
  · have hgap := trim_eq_nil_iff.mp ht
    rw [rightSide?_of_blank hgap] at h
    obtain ⟨c, hc, rfl⟩ := Option.map_eq_some_iff.mp h
    obtain ⟨hne, b, a, hab, hb⟩ := List.find?_eq_some_iff_append.mp hc
    have htext : t = a.reverse ++ c :: b.reverse := by
      simpa using congrArg List.reverse hab
    subst htext
    obtain ⟨ha, hcb⟩ := isGap_append.mp hgap
    exact .blank ha (hcb c (by simp)) (by simpa using hne) fun d hd => by
      simpa using hb d (by simpa using hd)
  · rw [rightSide?_of_trim ht, Option.ite_none_left_eq_some] at h
    obtain ⟨hn, h⟩ := h
    obtain rfl := Option.some.inj h
    obtain ⟨a, b, ha, hb, hab⟩ := exists_gaps_trim t
    have := IsRightSide.trimmed ha hb ht (solidHead_trim t) (solidLast_trim t) hn
    rwa [← hab] at this

/-- Blanks, the last of them on a line being one character in particular. -/
theorem isGap_append_cons {a b : Text} {c : Char} (ha : IsGap a) (hc : isBlank c = true)
    (hb : ∀ d ∈ b, d = '\n') : IsGap (a ++ c :: b) := by
  refine isGap_append.mpr ⟨ha, fun d hd => ?_⟩
  rcases List.mem_cons.mp hd with rfl | hd
  · exact hc
  · rw [hb d hd]
    decide

theorem rightSide?_eq_some_iff {t rhs : Text} : rightSide? t = some rhs ↔ IsRightSide t rhs := by
  constructor
  · exact isRightSide_of_rightSide?
  · intro h
    cases h with
    | trimmed ha hb hne hhead hlast hn =>
      have htrim := trim_eq ha hhead hlast hne hb
      rw [rightSide?_of_trim (by rwa [htrim]), htrim, if_neg hn]
    | @blank a b c ha hc hn hb =>
      rw [rightSide?_of_blank (isGap_append_cons ha hc hb)]
      have hfind : (a ++ c :: b).reverse.find? (· != '\n') = some c :=
        List.find?_eq_some_iff_append.mpr ⟨by simpa using hn, b.reverse, a.reverse, by simp,
          fun d hd => by simpa using hb d (by simpa using hd)⟩
      rw [hfind]
      rfl

theorem IsRightSide.eq_trim {body rhs : Text} (h : IsRightSide body rhs) (hb : trim body ≠ []) :
    rhs = trim body ∧ '\n' ∉ trim body := by
  have hread := rightSide?_eq_some_iff.mpr h
  rw [rightSide?_of_trim hb, Option.ite_none_left_eq_some, Option.some.injEq] at hread
  exact ⟨hread.2.symm, hread.1⟩

theorem isRightSide_trim {t : Text} (ht : trim t ≠ []) (hline : '\n' ∉ trim t) :
    IsRightSide t (trim t) := by
  rw [← rightSide?_eq_some_iff, rightSide?_of_trim ht, if_neg hline]

/-- What a template of one given shape is, from its name and the text after it. -/
def readAfter? (kind : ShapeKind) (name rest : Text) : Option Shape :=
  match kind with
  | .identity => if rest = [] then some (.identity name) else none
  | .equality => (compared? rest).bind fun body => (rightSide? body).bind fun rhs =>
      if hasOpenQuestion rhs then none else some (.equality name rhs)
  | .dualEquality => (compared? rest).bind fun body => (reference? body).map (.dualEquality name)
  | .ternary => (compared? rest).bind fun body => (operandBefore? '?' body).bind fun c =>
      (branches? c.2).map fun p => .ternary name c.1 p.1 p.2
  | .literalTernary => (after? ['?'] rest).bind fun choice =>
      (branches? choice).map fun p => .literalTernary name p.1 p.2

theorem read?_eq_bind (kind : ShapeKind) (expression : Text) :
    read? kind expression =
      ((interior? expression).bind subject?).bind fun s => readAfter? kind s.1 s.2 := by
  cases kind <;>
    simp only [read?, readAfter?, Option.bind_eq_bind, Option.bind_assoc, Option.pure_def,
      Option.map_eq_bind, Function.comp_def]

/-- How a template of each shape goes on after its name and the blanks that follow. -/
inductive WrittenAfter (name : Text) : Text → Shape → Prop where
  | identity : WrittenAfter name [] (.identity name)
  | equality {body rhs : Text} : IsRightSide body rhs → hasOpenQuestion rhs = false →
      WrittenAfter name (['=', '='] ++ body) (.equality name rhs)
  | dualEquality {right c d : Text} : IsName right → IsGap c → IsGap d →
      WrittenAfter name (['=', '='] ++ (c ++ referTo right ++ d)) (.dualEquality name right)
  | ternary {rhs x y c d e f g h : Text} : IsOperand rhs → IsOperand x → IsOperand y →
      IsGap c → IsGap d → IsGap e → IsGap f → IsGap g → IsGap h →
      WrittenAfter name
        (['=', '='] ++ (c ++ rhs ++ d ++ '?' :: (e ++ x ++ f ++ ':' :: (g ++ y ++ h))))
        (.ternary name rhs x y)
  | literalTernary {x y c d e f : Text} : IsOperand x → IsOperand y → IsGap c → IsGap d →
      IsGap e → IsGap f →
      WrittenAfter name (['?'] ++ (c ++ x ++ d ++ ':' :: (e ++ y ++ f)))
        (.literalTernary name x y)

theorem writtenAfter_of_readAfter? {kind : ShapeKind} {name rest : Text} {shape : Shape}
    (h : readAfter? kind name rest = some shape) :
    shape.kind = kind ∧ WrittenAfter name rest shape := by
  cases kind with
  | identity =>
    simp only [readAfter?, Option.ite_none_right_eq_some, Option.some.injEq] at h
    obtain ⟨rfl, rfl⟩ := h
    exact ⟨rfl, .identity⟩
  | equality =>
    simp only [readAfter?, compared?, Option.bind_eq_some_iff, after?_eq_some_iff,
      rightSide?_eq_some_iff, Option.ite_none_left_eq_some, Option.some.injEq,
      Bool.not_eq_true] at h
    obtain ⟨body, rfl, rhs, hb, hq, rfl⟩ := h
    exact ⟨rfl, .equality hb hq⟩
  | dualEquality =>
    simp only [readAfter?, compared?, Option.bind_eq_some_iff, after?_eq_some_iff,
      Option.map_eq_some_iff, reference?_eq_some_iff] at h
    obtain ⟨_, rfl, right, ⟨c, d, hc, hd, hn, rfl⟩, rfl⟩ := h
    exact ⟨rfl, .dualEquality hn hc hd⟩
  | ternary =>
    simp only [readAfter?, compared?, Option.bind_eq_some_iff, after?_eq_some_iff,
      Option.map_eq_some_iff, Prod.exists, branches?_eq_some_iff,
      operandBefore?_eq_some_iff (show isBare '?' = false by decide)] at h
    obtain ⟨_, rfl, rhs, _, ⟨c, d, hc, hd, ho, rfl⟩, x, y,
      ⟨e, f, g, i, he, hf, hg, hi, hx, hy, rfl⟩, rfl⟩ := h
    exact ⟨rfl, .ternary ho hx hy hc hd he hf hg hi⟩
  | literalTernary =>
    simp only [readAfter?, Option.bind_eq_some_iff, after?_eq_some_iff, Option.map_eq_some_iff,
      Prod.exists, branches?_eq_some_iff] at h
    obtain ⟨_, rfl, x, y, ⟨c, d, e, f, hc, hd, he, hf, hx, hy, rfl⟩, rfl⟩ := h
    exact ⟨rfl, .literalTernary hx hy hc hd he hf⟩

theorem WrittenAfter.readAfter? {name rest : Text} {shape : Shape}
    (h : WrittenAfter name rest shape) : readAfter? shape.kind name rest = some shape := by
  have hcompared (body : Text) : compared? (['=', '='] ++ body) = some body :=
    after?_eq_some_iff.mpr rfl
  cases h with
  | identity => rfl
  | @equality body rhs hb hq =>
    simp only [Shape.kind, Template.readAfter?, hcompared, Option.bind_some,
      rightSide?_eq_some_iff.mpr hb, hq]
    rfl
  | @dualEquality right c d hn hc hd =>
    simp only [Shape.kind, Template.readAfter?, hcompared, Option.bind_some,
      reference?_eq_some_iff.mpr ⟨c, d, hc, hd, hn, rfl⟩, Option.map_some]
  | @ternary rhs x y c d e f g i ho hx hy hc hd he hf hg hi =>
    have hrhs := (operandBefore?_eq_some_iff (show isBare '?' = false by decide)).mpr
      ⟨c, d, hc, hd, ho, Eq.refl (c ++ rhs ++ d ++ '?' :: (e ++ x ++ f ++ ':' :: (g ++ y ++ i)))⟩
    simp only [Shape.kind, Template.readAfter?, hcompared, Option.bind_some, hrhs,
      branches?_eq_some_iff.mpr ⟨e, f, g, i, he, hf, hg, hi, hx, hy, rfl⟩, Option.map_some]
  | @literalTernary x y c d e f hx hy hc hd he hf =>
    have hmark : after? ['?'] (['?'] ++ (c ++ x ++ d ++ ':' :: (e ++ y ++ f))) =
        some (c ++ x ++ d ++ ':' :: (e ++ y ++ f)) := after?_eq_some_iff.mpr rfl
    simp only [Shape.kind, Template.readAfter?, hmark, Option.bind_some,
      branches?_eq_some_iff.mpr ⟨c, d, e, f, hc, hd, he, hf, hx, hy, rfl⟩, Option.map_some]

theorem readAfter?_eq_some_iff {kind : ShapeKind} {name rest : Text} {shape : Shape} :
    readAfter? kind name rest = some shape ↔ shape.kind = kind ∧ WrittenAfter name rest shape := by
  constructor
  · exact writtenAfter_of_readAfter?
  · rintro ⟨rfl, h⟩
    exact h.readAfter?

/-- After the name and its blanks stands nothing, an equality sign or a question mark. -/
theorem WrittenAfter.head {name rest : Text} {shape : Shape} (h : WrittenAfter name rest shape) :
    ∀ c ∈ rest.head?, c = '=' ∨ c = '?' := by
  cases h <;> simp

theorem WrittenAfter.solidHead {name rest : Text} {shape : Shape}
    (h : WrittenAfter name rest shape) : SolidHead rest := by
  intro c hc
  rcases h.head c hc with rfl | rfl <;> decide

theorem WrittenAfter.stopsName {name rest : Text} {shape : Shape}
    (h : WrittenAfter name rest shape) : ∀ c ∈ rest.head?, isNameChar c = false := by
  intro c hc
  rcases h.head c hc with rfl | rfl <;> decide

/-- Between its marks the expression refers to a parameter and goes on with a given text. -/
def Refers (expression name rest : Text) : Prop :=
  ∃ a b, IsName name ∧ IsGap a ∧ IsGap b ∧
    expression = openMark ++ (a ++ referTo name ++ b ++ rest) ++ closeMark

theorem written_iff {shape : Shape} {expression : Text} : Written shape expression ↔
    ∃ name rest, Refers expression name rest ∧ WrittenAfter name rest shape := by
  constructor
  · intro h
    cases h with
    | @identity name a b hn ha hb =>
      exact ⟨name, _, ⟨a, b, hn, ha, hb, by simp⟩, .identity⟩
    | @equality name rhs body a b hn ha hb hrhs hq =>
      exact ⟨name, _, ⟨a, b, hn, ha, hb, by simp⟩, .equality hrhs hq⟩
    | @dualEquality left right a b c d hl hr ha hb hc hd =>
      exact ⟨left, _, ⟨a, b, hl, ha, hb, by simp⟩, .dualEquality hr hc hd⟩
    | @ternary name rhs x y a b c d e f g i hn ho hx hy ha hb hc hd he hf hg hi =>
      exact ⟨name, _, ⟨a, b, hn, ha, hb, by simp⟩, .ternary ho hx hy hc hd he hf hg hi⟩
    | @literalTernary name x y a b c d e f hn hx hy ha hb hc hd he hf =>
      exact ⟨name, _, ⟨a, b, hn, ha, hb, by simp⟩, .literalTernary hx hy hc hd he hf⟩
  · rintro ⟨name, rest, ⟨a, b, hn, ha, hb, rfl⟩, h⟩
    cases h with
    | identity => simpa using Written.identity hn ha hb
    | equality hrhs hq => simpa using Written.equality hn ha hb hrhs hq
    | dualEquality hr hc hd => simpa using Written.dualEquality hn hr ha hb hc hd
    | ternary ho hx hy hc hd he hf hg hi =>
      simpa using Written.ternary hn ho hx hy ha hb hc hd he hf hg hi
    | literalTernary hx hy hc hd he hf =>
      simpa using Written.literalTernary hn hx hy ha hb hc hd he hf

theorem Written.marked {shape : Shape} {expression : Text} (h : Written shape expression) :
    ∃ i, expression = openMark ++ i ++ closeMark := by
  obtain ⟨name, rest, ⟨a, b, -, -, -, hi⟩, -⟩ := written_iff.mp h
  exact ⟨_, hi⟩

/-- The name and what follows it are settled by the text of a template. -/
theorem Refers.read?_eq {expression name rest : Text} (h : Refers expression name rest)
    (hr : SolidHead rest) (hr' : ∀ c ∈ rest.head?, isNameChar c = false) (kind : ShapeKind) :
    read? kind expression = readAfter? kind name rest := by
  obtain ⟨a, b, hn, ha, hb, rfl⟩ := h
  rw [read?_eq_bind, interior?_eq_some_iff.mpr rfl, Option.bind_some,
    subject?_eq ha hb hn hr hr', Option.bind_some]

theorem read?_eq_some_iff {kind : ShapeKind} {expression : Text} {shape : Shape} :
    read? kind expression = some shape ↔ shape.kind = kind ∧ Written shape expression := by
  rw [written_iff]
  constructor
  · intro h
    simp only [read?_eq_bind, Option.bind_eq_some_iff, interior?_eq_some_iff, Prod.exists] at h
    obtain ⟨name, rest, ⟨i, rfl, hs⟩, h⟩ := h
    obtain ⟨a, b, ha, hb, hn, rfl, -⟩ := exists_of_subject? hs
    obtain ⟨hk, hw⟩ := readAfter?_eq_some_iff.mp h
    exact ⟨hk, name, rest, ⟨a, b, hn, ha, hb, rfl⟩, hw⟩
  · rintro ⟨hk, name, rest, href, hw⟩
    rw [href.read?_eq hw.solidHead hw.stopsName, readAfter?_eq_some_iff]
    exact ⟨hk, hw⟩

/-- Two written forms of one text and one kind are the same, field by field. -/
theorem Written.unique {s₁ s₂ : Shape} {expression : Text} (hk : s₁.kind = s₂.kind)
    (h₁ : Written s₁ expression) (h₂ : Written s₂ expression) : s₁ = s₂ := by
  have hread₁ := read?_eq_some_iff.mpr ⟨hk, h₁⟩
  have hread₂ := read?_eq_some_iff.mpr ⟨rfl, h₂⟩
  exact Option.some.inj (hread₁.symm.trans hread₂)

/-- The four templates without free text take exactly their written forms, and no text is one of
them in two ways. -/
theorem closed_templates_exact (expression : Text) :
    (∀ name, read? .identity expression = some (.identity name) ↔
      Written (.identity name) expression) ∧
    (∀ left right, read? .dualEquality expression = some (.dualEquality left right) ↔
      Written (.dualEquality left right) expression) ∧
    (∀ name rhs thenBranch elseBranch,
      read? .ternary expression = some (.ternary name rhs thenBranch elseBranch) ↔
        Written (.ternary name rhs thenBranch elseBranch) expression) ∧
    (∀ name thenBranch elseBranch,
      read? .literalTernary expression = some (.literalTernary name thenBranch elseBranch) ↔
        Written (.literalTernary name thenBranch elseBranch) expression) ∧
    (∀ kind shape, read? kind expression = some shape → shape.kind = kind) ∧
    ∀ s₁ s₂ : Shape, s₁.kind = s₂.kind → Written s₁ expression → Written s₂ expression →
      s₁ = s₂ := by
  refine ⟨fun name => ?_, fun left right => ?_, fun name rhs x y => ?_, fun name x y => ?_,
    fun kind shape h => (read?_eq_some_iff.mp h).1, fun s₁ s₂ hk h₁ h₂ => h₁.unique hk h₂⟩
  all_goals
    rw [read?_eq_some_iff]
    exact and_iff_right rfl

/-- Marks, separators and an escaped quote inside of operands. -/
example : read? .ternary
    (openMark ++ "params.a-b == \"\x7d\x7d\\\"?\"?x \x7d\x7d == y :\":\" ".toList ++ closeMark) =
      some (.ternary "a-b".toList "\"\x7d\x7d\\\"?\"".toList "x \x7d\x7d == y".toList
        "\":\"".toList) := by
  decide +kernel

end ParameterTemplates.Template
