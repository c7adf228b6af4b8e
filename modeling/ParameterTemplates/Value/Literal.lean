import ParameterTemplates.Number.Numeral
import ParameterTemplates.Value.Scalar

/-! Literals: the texts that denote a value of a given type. -/
namespace ParameterTemplates.Literal
open Text

/-- A number literal is a numeral with blanks around it and a finite value. -/
def number? (t : Text) : Option Scalar :=
  match Binary64.read? (trim t) with
  | some x => if x.isFinite then some (.number x) else none
  | none => none

/-- A string literal is a text in quotes; what stands between them is taken as it is. -/
def string? (t : Text) : Option Scalar :=
  ((after? ['"'] t).bind (before? ['"'])).map .string

def boolean? (t : Text) : Option Scalar :=
  if t = "true".toList then some (.boolean true)
  else if t = "false".toList then some (.boolean false)
  else none

def read? : ValueType → Text → Option Scalar
  | .string => string?
  | .number => number?
  | .boolean => boolean?

end ParameterTemplates.Literal
