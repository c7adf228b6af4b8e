import ParameterTemplates.Resolution.Traced
import ParameterTemplates.Value.Literal
import ParameterTemplates.Value.Parameter

/-! Reading parameters and operands as values of a given type. -/
namespace ParameterTemplates

namespace Literal

/-- The value of a literal, or the text that is malformed as the type. -/
def read (wanted : ValueType) (t : Text) : Except ResolveError Scalar :=
  match read? wanted t with
  | some v => .ok v
  | none => .error (.malformed t wanted)

/-- Reads a literal where a reference may not stand. -/
def coerce (wanted : ValueType) (t : Text) : Except ResolveError Scalar :=
  match Template.reference? t with
  | some _ => .error (.malformed t wanted)
  | none => read wanted t

end Literal

namespace Parameter

/-- The value of a parameter as a type, which has to be legal for it. -/
def readAs (name : Text) (p : Parameter) (type : ValueType) : Except ResolveError Scalar :=
  if p.isLegal type then
    match p.access type with
    | some v => .ok v
    | none => .error (.typeMismatch (.noValue name type))
  else .error (.typeMismatch (.notLegal name type p.legalTypes))

/-- The first legal type; that there are others is worth a warning. -/
def inferType (name : Text) (p : Parameter) : Traced ValueType :=
  match p.legalTypes with
  | [] => .fail (.noLegalType name)
  | [type] => pure type
  | type :: others => do
    Traced.note (.severalTypes name (type :: others) type)
    return type

end Parameter

namespace Table

def find (table : Table) (name : Text) : Except ResolveError Parameter :=
  match table name with
  | some p => .ok p
  | none => .error (.unresolved name)

/-- The value of the parameter of a name. -/
def value (table : Table) (wanted : ValueType) (name : Text) : Except ResolveError Scalar := do
  let p ← find table name
  p.readAs name wanted

/-- The value of a branch, which is a reference or a literal. -/
def branchValue (table : Table) (wanted : ValueType) (branch : Text) : Except ResolveError Scalar :=
  match Template.reference? branch with
  | some name => value table wanted name
  | none => Literal.coerce wanted branch

end Table
end ParameterTemplates
