import ParameterTemplates.Resolution.Evaluation

/-! From the text of a template to its value. -/
namespace ParameterTemplates
open Template

/-- The shape of an expression. -/
def classify (expression : Text) : Traced Shape :=
  match classify? expression with
  | some shape => ⟨.ok shape, [.classified expression shape.kind]⟩
  | none => .fail (.structural expression .unsupported)

/-- The record that closes a resolution. -/
def closing (expression : Text) (kind : ShapeKind) : Except ResolveError Scalar → Record
  | .ok value => .resolved kind expression value
  | .error e => .failed kind expression e

/-- The value of an expression of any shape. -/
def resolve (table : Table) (wanted : ValueType) (expression : Text) : Traced Scalar := do
  let shape ← classify expression
  let result := evaluate table wanted shape
  ⟨result.outcome, result.records ++ [closing expression shape.kind result.outcome]⟩

/-- The value of an expression that has to have one given shape. -/
def resolveAs (kind : ShapeKind) (table : Table) (wanted : ValueType) (expression : Text) :
    Traced Scalar :=
  match read? kind expression with
  | some shape => evaluate table wanted shape
  | none => .fail (.structural expression (.otherForm kind))

/-- The names that an expression refers to. -/
def referencedParameters (expression : Text) : Traced (List Text) := do
  return (← classify expression).parameters

end ParameterTemplates
