import ParameterTemplates.Resolution.Reading

/-! What each shape evaluates to over a table. -/
namespace ParameterTemplates
open Template

/-- Whether a parameter equals a literal of its own type. -/
def evaluateEquality (table : Table) (name rhs : Text) : Traced Bool := do
  let p ← .ofExcept (table.find name)
  let type ← p.inferType name
  let left ← .ofExcept (p.readAs name type)
  let right ← .ofExcept (Literal.coerce type rhs)
  Traced.note (.comparedLiteral name rhs left right)
  return left.sameValue right

/-- Whether two parameters are equal as the type of the left one. -/
def evaluateDualEquality (table : Table) (leftName rightName : Text) : Traced Bool := do
  let l ← .ofExcept (table.find leftName)
  let r ← .ofExcept (table.find rightName)
  let type ← l.inferType leftName
  if r.isLegal type then
    let left ← .ofExcept (l.readAs leftName type)
    let right ← .ofExcept (r.readAs rightName type)
    Traced.note (.comparedParameters leftName rightName left right)
    return left.sameValue right
  else .fail (.typeMismatch (.incomparable leftName type rightName))

/-- The branch that an equality selects. -/
def evaluateTernary (table : Table) (wanted : ValueType) (name rhs thenBranch elseBranch : Text) :
    Traced Scalar := do
  let branch := if ← evaluateEquality table name rhs then thenBranch else elseBranch
  Traced.note (.tookTernaryBranch name branch)
  .ofExcept (table.branchValue wanted branch)

/-- Whether a parameter that has to be legal as a boolean is true. -/
def condition (table : Table) (name : Text) : Except ResolveError Bool := do
  let p ← table.find name
  if p.legalBoolean then
    match p.asBoolean with
    | some b => .ok b
    | none => .error (.typeMismatch (.noValue name .boolean))
  else .error (.typeMismatch (.notCondition name))

/-- The branch that a boolean parameter selects. -/
def evaluateLiteralTernary (table : Table) (wanted : ValueType) (name thenBranch elseBranch : Text) :
    Traced Scalar := do
  let branch := if ← .ofExcept (condition table name) then thenBranch else elseBranch
  Traced.note (.tookLiteralTernaryBranch name branch)
  .ofExcept (table.branchValue wanted branch)

/-- The value of a shape. A comparison is a boolean whatever type is wanted. -/
def evaluate (table : Table) (wanted : ValueType) : Shape → Traced Scalar
  | .identity name => .ofExcept (table.value wanted name)
  | .equality name rhs => return .boolean (← evaluateEquality table name rhs)
  | .dualEquality left right => return .boolean (← evaluateDualEquality table left right)
  | .ternary name rhs thenBranch elseBranch =>
    evaluateTernary table wanted name rhs thenBranch elseBranch
  | .literalTernary name thenBranch elseBranch =>
    evaluateLiteralTernary table wanted name thenBranch elseBranch

end ParameterTemplates
