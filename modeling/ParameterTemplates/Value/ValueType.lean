import ParameterTemplates.Text.Basic

/-! The three types of values. -/
namespace ParameterTemplates

inductive ValueType where
  | string
  | number
  | boolean
  deriving DecidableEq, Repr

namespace ValueType

/-- The order in which types are considered when one is inferred. -/
def priority : List ValueType := [.string, .number, .boolean]

def name : ValueType → Text
  | .string => "string".toList
  | .number => "number".toList
  | .boolean => "boolean".toList

/-- The type of a name or short name, in any case. -/
def ofName? (t : Text) : Option ValueType :=
  let name := t.map Char.toLower
  if name = "string".toList ∨ name = "str".toList then some .string
  else if name = "number".toList ∨ name = "num".toList then some .number
  else if name = "boolean".toList ∨ name = "bool".toList then some .boolean
  else none

/-- What is said of a name that no type has. -/
def unknownMessage (t : Text) : Text :=
  "unknown type '".toList ++ t.map Char.toLower ++
    "', expected one of: string, number, boolean".toList

/-- Type names in a row, or a word for none. -/
def describe : List ValueType → Text
  | [] => "none".toList
  | types => List.intercalate [',', ' '] (types.map name)

end ValueType
end ParameterTemplates
