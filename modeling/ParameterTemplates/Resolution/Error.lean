import ParameterTemplates.Template.Shape
import ParameterTemplates.Value.ValueType

/-! Why a template cannot be resolved, by cause, and the wording of each cause. -/
namespace ParameterTemplates

/-- Why an expression is no template, or not one of the shape asked for. -/
inductive StructuralFault where
  | unsupported
  | otherForm (kind : Template.ShapeKind)
  | stated (reason : Text)
  deriving DecidableEq

/-- Why a parameter cannot be used as it is. -/
inductive TypeFault where
  | notLegal (name : Text) (wanted : ValueType) (legal : List ValueType)
  | noValue (name : Text) (type : ValueType)
  | incomparable (left : Text) (type : ValueType) (right : Text)
  | notCondition (name : Text)
  | stated (reason : Text)
  deriving DecidableEq

inductive ResolveError where
  | structural (expression : Text) (fault : StructuralFault)
  | unresolved (name : Text)
  | typeMismatch (fault : TypeFault)
  | malformed (text : Text) (wanted : ValueType)
  | noLegalType (name : Text)
  deriving DecidableEq

def StructuralFault.message : StructuralFault → Text
  | .unsupported => "expression does not match any supported form".toList
  | .otherForm kind => "expression is not of the ".toList ++ kind.name ++ " form".toList
  | .stated reason => reason

def TypeFault.message : TypeFault → Text
  | .notLegal name wanted legal =>
    Template.referTo name ++ " cannot be used as ".toList ++ wanted.name ++
      " (legal types: ".toList ++ ValueType.describe legal ++ [')']
  | .noValue name type =>
    Template.referTo name ++ " is marked as ".toList ++ type.name ++ " but yields no ".toList ++
      type.name ++ " value".toList
  | .incomparable left type right =>
    "cannot compare ".toList ++ Template.referTo left ++ " (".toList ++ type.name ++
      ") with ".toList ++ Template.referTo right
  | .notCondition name =>
    Template.referTo name ++ " is used as a condition but is not a boolean".toList
  | .stated reason => reason

namespace ResolveError

def message : ResolveError → Text
  | .structural expression fault =>
    "Unsupported expression '".toList ++ expression ++ "': ".toList ++ fault.message
  | .unresolved name => "Unresolvable reference: ".toList ++ Template.referTo name
  | .typeMismatch fault => "Illegal type coercion: ".toList ++ fault.message
  | .malformed text wanted =>
    "Malformed ".toList ++ wanted.name ++ " literal '".toList ++ text ++ ['\'']
  | .noLegalType name =>
    "Cannot infer type of ".toList ++ Template.referTo name ++ ": no legal type".toList

inductive Kind where
  | structural
  | unresolved
  | typeMismatch
  | malformed
  | noLegalType
  deriving DecidableEq, Repr

def Kind.name : Kind → Text
  | .structural => "structural".toList
  | .unresolved => "unresolved-reference".toList
  | .typeMismatch => "type-mismatch".toList
  | .malformed => "malformed-literal".toList
  | .noLegalType => "type-inference".toList

def kind : ResolveError → Kind
  | .structural _ _ => .structural
  | .unresolved _ => .unresolved
  | .typeMismatch _ => .typeMismatch
  | .malformed _ _ => .malformed
  | .noLegalType _ => .noLegalType

end ResolveError
end ParameterTemplates
