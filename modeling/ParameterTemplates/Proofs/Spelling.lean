import ParameterTemplates.Proofs.Precedence
import ParameterTemplates.Proofs.StringConditions

/-! One spelling of each shape, with single blanks between its parts. It reads back as the shape if
the parts may stand where they do; of an equality whose right side is an operand nothing but a line
end can be in the way. -/
namespace ParameterTemplates
namespace Template
open Text

namespace Shape

/-- The spelling of a shape with single blanks between its parts. -/
def text : Shape → Text
  | .identity name => openMark ++ [' '] ++ referTo name ++ [' '] ++ closeMark
  | .equality name rhs => equalityText name rhs
  | .dualEquality left right => equalityText left (referTo right)
  | .ternary name rhs x y => equalityText name (choiceBody rhs x y)
  | .literalTernary name x y =>
    openMark ++ [' '] ++ choiceBody (referTo name) x y ++ [' '] ++ closeMark

/-- Whether the parts of a shape may stand where they do. -/
def WellFormed : Shape → Prop
  | .identity name => IsName name
  | .equality name rhs => IsName name ∧ rhs ≠ [] ∧ SolidHead rhs ∧ SolidLast rhs ∧ '\n' ∉ rhs ∧
      hasOpenQuestion rhs = false ∧ reference? rhs = none
  | .dualEquality left right => IsName left ∧ IsName right
  | .ternary name rhs x y => IsName name ∧ IsOperand rhs ∧ IsOperand x ∧ IsOperand y
  | .literalTernary name x y => IsName name ∧ IsOperand x ∧ IsOperand y

variable {s : Shape}

theorem written_text (h : s.WellFormed) : Written s s.text := by
  have hblank : IsGap [' '] := by decide
  cases s with
  | identity name => exact .identity h hblank hblank
  | equality name rhs =>
    obtain ⟨hn, hne, hhead, hlast, hline, hopen, -⟩ := h
    have hrhs : IsRightSide ([' '] ++ rhs ++ [' ']) rhs :=
      .trimmed hblank hblank hne hhead hlast hline
    simpa [text, equalityText] using Written.equality hn hblank hblank hrhs hopen
  | dualEquality left right =>
    obtain ⟨hl, hr⟩ := h
    simpa [text, equalityText] using Written.dualEquality hl hr hblank hblank hblank hblank
  | ternary name rhs x y =>
    obtain ⟨hn, ho, hx, hy⟩ := h
    simpa [text, equalityText, choiceBody] using
      Written.ternary hn ho hx hy hblank hblank hblank hblank hblank hblank hblank hblank
  | literalTernary name x y =>
    obtain ⟨hn, hx, hy⟩ := h
    simpa [text, choiceBody] using
      Written.literalTernary hn hx hy hblank hblank hblank hblank hblank hblank

/-- A well-formed shape is read back from its spelling. -/
theorem classify?_text (h : s.WellFormed) : classify? s.text = some s := by
  cases s with
  | equality name rhs =>
    have hnone : reference? rhs = none := h.2.2.2.2.2.2
    exact classify?_eq_equality_iff.mpr ⟨written_text h, hnone⟩
  | identity | dualEquality | ternary | literalTernary =>
    exact classify?_eq_some_iff.mpr ⟨written_text h, fun hk => nomatch hk⟩

example : (Shape.ternary ['a'] ['1'] "params.b".toList ['"', '"']).text =
    "\x7b\x7b params.a == 1 ? params.b : \"\" \x7d\x7d".toList := rfl

end Shape

variable {name rhs : Text}

/-- The comparison with an operand is read as an equality if the operand stands on one line. -/
theorem read?_equality_text (hn : IsName name) (ho : IsOperand rhs) :
    read? .equality (Shape.equality name rhs).text =
      if '\n' ∈ rhs then none else some (.equality name rhs) := by
  have href : Refers (Shape.equality name rhs).text name
      (['=', '='] ++ ([' '] ++ rhs ++ [' '])) :=
    ⟨[' '], [' '], hn, by decide, by decide, by simp [Shape.text, equalityText]⟩
  have htrim : trim ([' '] ++ rhs ++ [' ']) = rhs :=
    trim_eq (by decide) ho.solidHead ho.solidLast ho.ne_nil (by decide)
  have hside : rightSide? ([' '] ++ rhs ++ [' ']) = if '\n' ∈ rhs then none else some rhs := by
    rw [rightSide?_of_trim (by rw [htrim]; exact ho.ne_nil), htrim]
  rw [href.read?_eq (solidHead_cons.mpr (by decide)) (by simp; decide), readAfter?, compared?,
    after?_eq_some_iff.mpr rfl, Option.bind_some, hside]
  split
  · rfl
  · rw [Option.bind_some, ho.hasOpenQuestion_eq_false]
    rfl

end Template

open Template

/-- The spelling of a well-formed shape resolves to what the shape evaluates to. -/
theorem resolve_text_outcome {s : Shape} (h : s.WellFormed) (table : Table) (wanted : ValueType) :
    (resolve table wanted s.text).outcome = (evaluate table wanted s).outcome := by
  rw [resolve_outcome, Shape.classify?_text h]

end ParameterTemplates
