import ParameterTemplates.Command.Load
import ParameterTemplates.Resolution.Resolve
import ParameterTemplates.Text.Plain

/-! What a command line answers: an exit code, a text, and diagnostics. -/
namespace ParameterTemplates.Command
open Template

/-- The answer of a run. -/
structure Answer where
  exitCode : Nat
  output : Text
  diagnostics : Text
  deriving DecidableEq

/-- Why a run fails. -/
inductive RunError where
  | load (e : LoadError)
  | missing (names : List Text)
  | resolution (e : ResolveError)

def RunError.message : RunError → Text
  | .load e => e.message
  | .missing names => "missing parameters: ".toList ++ List.intercalate [',', ' '] names
  | .resolution e => e.message

/-- What a run writes when it succeeds, or why it fails, with the diagnostics of level debug. -/
structure Outcome where
  result : Except RunError Text
  notes : List Text

/-- The part of the program that a diagnostic comes from. -/
inductive Origin where
  | command
  | engine

def Origin.name : Origin → Text
  | .command => "paramexpr".toList
  | .engine => "paramexpr::engine".toList

def line (t : Text) : Text := t ++ ['\n']

/-- A diagnostic without control sequences; where it runs over a line end, the next line is
indented. A sequence that is still open at the end takes the line end with it. The time of writing,
which a logger puts before the level, is left out. -/
def note (origin : Origin) (message : Text) : Text :=
  Text.plain (line ("[DEBUG ".toList ++ origin.name ++ [']', ' '] ++
    message.flatMap fun c => if c = '\n' then "\n    ".toList else [c]))

/-- A row of the operands of a shape. -/
def row (label value : Text) : Text := line ([' ', ' '] ++ label ++ value)

/-- The operands of a shape, one a line. -/
def describe : Shape → Text
  | .identity name => row "name: ".toList name
  | .equality name rhs => row "name: ".toList name ++ row "rhs:  ".toList rhs
  | .dualEquality left right => row "left:  ".toList left ++ row "right: ".toList right
  | .ternary name rhs thenBranch elseBranch =>
    row "name: ".toList name ++ row "rhs:  ".toList rhs ++ row "then: ".toList thenBranch ++
      row "else: ".toList elseBranch
  | .literalTernary name thenBranch elseBranch =>
    row "name: ".toList name ++ row "then: ".toList thenBranch ++
      row "else: ".toList elseBranch

def loadedNote (b : Bindings Scalar) : Text :=
  note .command ("loaded ".toList ++ NumberFormat.digits b.size ++ " parameters".toList)

/-- The diagnostics among the records of a resolution. -/
def debugNotes (records : List Record) : List Text :=
  (records.filter (·.level == .debug)).map fun r => note .engine r.message

def runResolve (b : Bindings Scalar) (expression : Text) (wanted : ValueType) (json : Bool) :
    Outcome :=
  let r := resolve b.table wanted expression
  let notes := loadedNote b :: debugNotes r.records
  match r.outcome with
  | .ok v => ⟨.ok (line (if json then v.toJsonText else v.display)), notes⟩
  | .error e => ⟨.error (.resolution e), notes⟩

def runParse (expression : Text) : Outcome :=
  match (classify expression).outcome with
  | .ok shape => ⟨.ok (line ("✓ ".toList ++ shape.kind.name) ++ describe shape), []⟩
  | .error e => ⟨.error (.resolution e), []⟩

/-- The lines of a check that found every parameter. -/
def supplied (b : Bindings Scalar) (names : List Text) : Text :=
  line "✓ all parameters supplied".toList ++ names.flatMap fun name =>
    match b.find? name with
    | some v => line ([' ', ' '] ++ name ++ " = ".toList ++ v.quoted)
    | none => []

def runCheck (b : Bindings Scalar) (expression : Text) : Outcome :=
  let notes := [loadedNote b]
  match (referencedParameters expression).outcome with
  | .error e => ⟨.error (.resolution e), notes⟩
  | .ok names =>
    match names.filter fun name => (b.find? name).isNone with
    | [] => ⟨.ok (supplied b names), notes⟩
    | missing => ⟨.error (.missing missing), notes⟩

/-- Parameters are loaded before the expression is looked at. -/
def perform (files : Text → Except FileFault Text) : Request → Outcome
  | .resolve expression sources wanted json =>
    match load files sources with
    | .ok b => runResolve b expression wanted json
    | .error e => ⟨.error (.load e), []⟩
  | .parse expression => runParse expression
  | .check expression sources =>
    match load files sources with
    | .ok b => runCheck b expression
    | .error e => ⟨.error (.load e), []⟩

/-- A failure writes nothing but its diagnostics, and its own message as it is. -/
def Outcome.answer (verbose : Bool) (o : Outcome) : Answer :=
  let notes := if verbose then o.notes.flatten else []
  match o.result with
  | .ok output => ⟨0, output, notes⟩
  | .error e => ⟨1, [], notes ++ line ("✗ ".toList ++ e.message)⟩

/-- The name of the program and its version. -/
def versionLine : Text := "paramexpr 0.1.0".toList

/-- How the program is called. -/
def usage : List Text := [
  "Usage: paramexpr [-v] resolve EXPRESSION [-p FILE] [-s NAME=VALUE]... [-t TYPE] [--json]".toList,
  "       paramexpr [-v] parse EXPRESSION".toList,
  "       paramexpr [-v] check EXPRESSION [-p FILE] [-s NAME=VALUE]...".toList]

/-- Answers a command line, given what the files hold. -/
def answer (files : Text → Except FileFault Text) (args : List Text) : Answer :=
  match Invocation.ofArguments args with
  | .run verbose request => (perform files request).answer verbose
  | .version => ⟨0, line versionLine, []⟩
  | .help => ⟨0, usage.flatMap line, []⟩
  | .refused => ⟨2, [], usage.flatMap line⟩

/-- The file that a command line reads, if it reads one. -/
def fileOf? (args : List Text) : Option Text :=
  match Invocation.ofArguments args with
  | .run _ (.resolve _ sources _ _) => sources.file
  | .run _ (.check _ sources) => sources.file
  | _ => none

end ParameterTemplates.Command
