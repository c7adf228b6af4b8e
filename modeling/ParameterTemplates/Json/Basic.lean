import ParameterTemplates.Number.Format

/-! JSON values and their compact text. -/
namespace ParameterTemplates

/-- A JSON value. Integers of 64 bits are kept apart from the other numbers, and the entries of an
object ascend by key. -/
inductive Json where
  | null
  | boolean (value : Bool)
  | integer (value : Int)
  | double (value : Binary64)
  | text (value : Text)
  | array (items : List Json)
  | object (entries : List (Text × Json))

namespace Json

/-- Two hexadecimal digits. -/
def hexPair (n : Nat) : Text := [Nat.digitChar (n / 16), Nat.digitChar (n % 16)]

/-- One character inside a JSON string: quotes, backslashes and control characters are escaped. -/
def escape (c : Char) : Text :=
  if c = '"' then ['\\', '"']
  else if c = '\\' then ['\\', '\\']
  else if c.toNat = 8 then ['\\', 'b']
  else if c.toNat = 9 then ['\\', 't']
  else if c.toNat = 10 then ['\\', 'n']
  else if c.toNat = 12 then ['\\', 'f']
  else if c.toNat = 13 then ['\\', 'r']
  else if c.toNat < 32 then ['\\', 'u', '0', '0'] ++ hexPair c.toNat
  else [c]

def writeText (t : Text) : Text := ['"'] ++ t.flatMap escape ++ ['"']

def writeBoolean (b : Bool) : Text := if b then "true".toList else "false".toList

mutual

/-- The compact text of a value. -/
def write : Json → Text
  | .null => "null".toList
  | .boolean b => writeBoolean b
  | .integer n => NumberFormat.integer n
  | .double x => jsonNumber.write x
  | .text t => writeText t
  | .array items => ['['] ++ writeItems items ++ [']']
  | .object entries => ['{'] ++ writeEntries entries ++ ['}']

def writeItems : List Json → Text
  | [] => []
  | [v] => write v
  | v :: vs => write v ++ [','] ++ writeItems vs

def writeEntries : List (Text × Json) → Text
  | [] => []
  | [(k, v)] => writeText k ++ [':'] ++ write v
  | (k, v) :: es => writeText k ++ [':'] ++ write v ++ [','] ++ writeEntries es

end

/-- Stores a value under a key, replacing what stood there and keeping the keys ascending. -/
def insertEntry {α : Type} (key : Text) (value : α) : List (Text × α) → List (Text × α)
  | [] => [(key, value)]
  | (k, v) :: es =>
    if key = k then (key, value) :: es
    else if key < k then (key, value) :: (k, v) :: es
    else (k, v) :: insertEntry key value es

end Json
end ParameterTemplates
