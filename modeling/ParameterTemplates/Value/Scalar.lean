import ParameterTemplates.Json.Basic
import ParameterTemplates.Text.Quoted
import ParameterTemplates.Value.ValueType

/-! Scalars: what templates resolve to and what parameters hold, with their four written forms. -/
namespace ParameterTemplates

inductive Scalar where
  | string (value : Text)
  | number (value : Binary64)
  | boolean (value : Bool)
  deriving DecidableEq

/-- A JSON value that is neither a string nor a number nor a boolean. -/
structure UnsupportedValue where
  value : Json

def UnsupportedValue.message (u : UnsupportedValue) : Text :=
  "Unsupported parameter value ".toList ++ u.value.write ++
    ": expected a string, number or boolean".toList

namespace Scalar

def type : Scalar → ValueType
  | .string _ => .string
  | .number _ => .number
  | .boolean _ => .boolean

def ofJson : Json → Except UnsupportedValue Scalar
  | .text t => .ok (.string t)
  | .boolean b => .ok (.boolean b)
  | .integer n => .ok (.number (.ofInt n))
  | .double x => .ok (.number x)
  | other => .error ⟨other⟩

/-- Equality of values: numbers compare as numbers, and values of two types always differ. -/
def sameValue : Scalar → Scalar → Bool
  | .string s, .string t => s == t
  | .number x, .number y => x.sameNumber y
  | .boolean a, .boolean b => a == b
  | _, _ => false

/-- The whole number that a finite double is, if it is one of magnitude below 10 ^ 15. -/
def smallInteger? : Binary64 → Option Int
  | .finite s m =>
    if m.units % unitsPerOne = 0 ∧ m.units < Nat.pow 10 15 * unitsPerOne then
      let n : Int := (m.units / unitsPerOne : Nat)
      some (if s then -n else n)
    else none
  | _ => none

/-- A number as it is displayed: a small whole number as an integer, without a signed zero. -/
def displayNumber (x : Binary64) : Text :=
  match smallInteger? x with
  | some n => NumberFormat.integer n
  | none => plainNumber.write x

/-- The value itself, a string as it stands. -/
def display : Scalar → Text
  | .string s => s
  | .number x => displayNumber x
  | .boolean b => Json.writeBoolean b

/-- The value as a JSON text. -/
def toJsonText : Scalar → Text
  | .string s => Json.writeText s
  | .number x => jsonNumber.write x
  | .boolean b => Json.writeBoolean b

/-- The value with a string in quotes. -/
def quoted : Scalar → Text
  | .string s => Text.quoted s
  | .number x => plainNumber.write x
  | .boolean b => Json.writeBoolean b

/-- The value under the name of its type. -/
def debug : Scalar → Text
  | .string s => "String(".toList ++ Text.quoted s ++ [')']
  | .number x => "Number(".toList ++ debugNumber.write x ++ [')']
  | .boolean b => "Boolean(".toList ++ Json.writeBoolean b ++ [')']

end Scalar
end ParameterTemplates
