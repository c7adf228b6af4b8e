import ParameterTemplates.Command.Request
import ParameterTemplates.Json.Reader
import ParameterTemplates.Value.Parameter

/-! Parameters of the command line: a file of JSON, overridden by assignments. -/
namespace ParameterTemplates.Command
open Text

/-- Why a file has no content. -/
inductive FileFault where
  | notFound
  | notPermitted
  | isDirectory
  | notText
  deriving DecidableEq, Repr

def FileFault.message : FileFault → Text
  | .notFound => "No such file or directory (os error 2)".toList
  | .notPermitted => "Permission denied (os error 13)".toList
  | .isDirectory => "Is a directory (os error 21)".toList
  | .notText => "stream did not contain valid UTF-8".toList

/-- Why parameters cannot be loaded. -/
inductive LoadError where
  | unreadable (path : Text) (fault : FileFault)
  | notObject (path : Text)
  | unsupported (name path : Text) (fault : UnsupportedValue)
  | noEquals (assignment : Text)
  | noName (assignment : Text)

def LoadError.message : LoadError → Text
  | .unreadable path fault =>
    "reading parameter file '".toList ++ path ++ "': ".toList ++ fault.message
  | .notObject path => "parsing parameter file '".toList ++ path ++ ['\'']
  | .unsupported name path fault =>
    "parameter '".toList ++ name ++ "' in '".toList ++ path ++ "': ".toList ++ fault.message
  | .noEquals assignment =>
    "invalid --set '".toList ++ assignment ++ "', expected NAME=VALUE".toList
  | .noName assignment =>
    "invalid --set '".toList ++ assignment ++ "', parameter name is empty".toList

/-- A text that is a whole JSON string, number or boolean is that value; any other is itself. -/
def inlineValue (t : Text) : Scalar :=
  match (Json.read? t).map Scalar.ofJson with
  | some (.ok v) => v
  | _ => .string t

/-- The name before the first equals sign and the value after it. -/
def assignment (t : Text) : Except LoadError (Text × Scalar) :=
  match t.dropWhile (· != '=') with
  | [] => .error (.noEquals t)
  | _ :: value =>
    match trim (t.takeWhile (· != '=')) with
    | [] => .error (.noName t)
    | name => .ok (name, inlineValue value)

/-- The entries of an object, in their order, each a scalar. -/
def fromEntries (path : Text) (entries : List (Text × Json)) :
    Except LoadError (Bindings Scalar) :=
  entries.foldlM (fun b (name, json) =>
    match Scalar.ofJson json with
    | .ok v => .ok (b.set name v)
    | .error fault => .error (.unsupported name path fault)) .empty

/-- The parameters of a file with a given content. -/
def fromContent (path content : Text) : Except LoadError (Bindings Scalar) :=
  match Json.read? content with
  | some (.object entries) => fromEntries path entries
  | _ => .error (.notObject path)

/-- The parameters of a file, and none without a file. -/
def fromFile (files : Text → Except FileFault Text) :
    Option Text → Except LoadError (Bindings Scalar)
  | none => .ok .empty
  | some path =>
    match files path with
    | .ok content => fromContent path content
    | .error fault => .error (.unreadable path fault)

/-- Sets what the assignments say, the later ones over the earlier. -/
def assign (b : Bindings Scalar) (assignments : List Text) : Except LoadError (Bindings Scalar) :=
  assignments.foldlM (fun b t => (assignment t).map fun (name, v) => b.set name v) b

/-- The parameters of all sources. -/
def load (files : Text → Except FileFault Text) (s : Sources) :
    Except LoadError (Bindings Scalar) := do
  assign (← fromFile files s.file) s.assignments

end ParameterTemplates.Command
