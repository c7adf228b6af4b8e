import ParameterTemplates.Template.Reference
import ParameterTemplates.Template.Operand

/-! The five shapes of a template, how each is read, and which parameters it refers to. -/
namespace ParameterTemplates.Template
open Text

def openMark : Text := ['{', '{']

def closeMark : Text := ['}', '}']

/-- Whether a text stands between the two marks, whatever lies between them. -/
def isMarked (t : Text) : Bool :=
  4 ≤ t.length && openMark.isPrefixOf t && closeMark.isSuffixOf t

inductive ShapeKind where
  | identity
  | equality
  | dualEquality
  | ternary
  | literalTernary
  deriving DecidableEq, Repr

def ShapeKind.name : ShapeKind → Text
  | .identity => "identity".toList
  | .equality => "equality".toList
  | .dualEquality => "dual-equality".toList
  | .ternary => "ternary".toList
  | .literalTernary => "literal-ternary".toList

inductive Shape where
  | identity (name : Text)
  | equality (name rhs : Text)
  | dualEquality (left right : Text)
  | ternary (name rhs thenBranch elseBranch : Text)
  | literalTernary (name thenBranch elseBranch : Text)
  deriving DecidableEq, Repr

namespace Shape

def kind : Shape → ShapeKind
  | .identity _ => .identity
  | .equality _ _ => .equality
  | .dualEquality _ _ => .dualEquality
  | .ternary _ _ _ _ => .ternary
  | .literalTernary _ _ _ => .literalTernary

/-- Every referenced name once, in the order in which the operands stand. -/
def parameters : Shape → List Text
  | .identity name => [name]
  | .equality name _ => [name]
  | .dualEquality left right => [left, right].eraseDups
  | .ternary name _ t e => (name :: (reference? t).toList ++ (reference? e).toList).eraseDups
  | .literalTernary name t e => (name :: (reference? t).toList ++ (reference? e).toList).eraseDups

end Shape

/-- What stands between the two marks. -/
def interior? (t : Text) : Option Text := (after? openMark t).bind (before? closeMark)

/-- The two branches of a choice, after its question mark. -/
def branches? (t : Text) : Option (Text × Text) := do
  let (thenBranch, rest) ← operandBefore? ':' t
  return (thenBranch, ← lastOperand? rest)

/-- What an equality compares with: the text without the blanks around it, on one line. Of nothing
but blanks the last one that is no line end is taken. -/
def rightSide? (t : Text) : Option Text :=
  match trim t with
  | [] => (t.reverse.find? (· != '\n')).map ([·])
  | rhs => if '\n' ∈ rhs then none else some rhs

/-- The right side of a comparison. -/
def compared? (t : Text) : Option Text := after? ['=', '='] t

/-- Reads a template of one given shape. -/
def read? (kind : ShapeKind) (expression : Text) : Option Shape := do
  let (name, rest) ← subject? (← interior? expression)
  match kind with
  | .identity => if rest = [] then some (.identity name) else none
  | .equality =>
    let rhs ← rightSide? (← compared? rest)
    if hasOpenQuestion rhs then none else some (.equality name rhs)
  | .dualEquality => return .dualEquality name (← reference? (← compared? rest))
  | .ternary =>
    let (rhs, choice) ← operandBefore? '?' (← compared? rest)
    let (thenBranch, elseBranch) ← branches? choice
    return .ternary name rhs thenBranch elseBranch
  | .literalTernary =>
    let (thenBranch, elseBranch) ← branches? (← after? ['?'] rest)
    return .literalTernary name thenBranch elseBranch

/-- The shapes in the order in which they are tried. -/
def precedence : List ShapeKind :=
  [.identity, .ternary, .literalTernary, .dualEquality, .equality]

/-- The first shape that a template has. -/
def classify? (expression : Text) : Option Shape := precedence.findSome? (read? · expression)

end ParameterTemplates.Template
