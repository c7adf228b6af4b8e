import ParameterTemplates.Value.Bindings
import ParameterTemplates.Value.Scalar

/-! Parameters as the resolver sees them, and tables of parameters. -/
namespace ParameterTemplates

/-- A parameter says for each type whether it may be read as that type, and apart from that what
reading it so yields. -/
structure Parameter where
  legalString : Bool
  legalNumber : Bool
  legalBoolean : Bool
  asString : Option Text
  asNumber : Option Binary64
  asBoolean : Option Bool
  deriving DecidableEq

namespace Parameter

def isLegal (p : Parameter) : ValueType → Bool
  | .string => p.legalString
  | .number => p.legalNumber
  | .boolean => p.legalBoolean

/-- The legal types in the order of priority. -/
def legalTypes (p : Parameter) : List ValueType := ValueType.priority.filter p.isLegal

/-- What the accessor of a type yields, whether the type is legal or not. -/
def access (p : Parameter) : ValueType → Option Scalar
  | .string => p.asString.map .string
  | .number => p.asNumber.map .number
  | .boolean => p.asBoolean.map .boolean

/-- A parameter that holds one value is legal as the type of that value and nothing else. -/
def ofScalar : Scalar → Parameter
  | .string s => ⟨true, false, false, some s, none, none⟩
  | .number x => ⟨false, true, false, none, some x, none⟩
  | .boolean b => ⟨false, false, true, none, none, some b⟩

end Parameter

/-- A table gives the parameter of a name, if there is one. -/
abbrev Table := Text → Option Parameter

/-- The table of values under their names. -/
def Bindings.table (b : Bindings Scalar) : Table := fun name => (b.find? name).map .ofScalar

end ParameterTemplates
