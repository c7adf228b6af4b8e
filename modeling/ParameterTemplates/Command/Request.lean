import ParameterTemplates.Text.Basic
import ParameterTemplates.Value.ValueType

/-! The arguments of the command line, read into a request. -/
namespace ParameterTemplates.Command
open Text

/-- Where parameters come from: at most one file, and assignments that override it. -/
structure Sources where
  file : Option Text
  assignments : List Text
  deriving DecidableEq

inductive Request where
  | resolve (expression : Text) (sources : Sources) (wanted : ValueType) (json : Bool)
  | parse (expression : Text)
  | check (expression : Text) (sources : Sources)
  deriving DecidableEq

/-- What the arguments ask for. -/
inductive Invocation where
  | run (verbose : Bool) (request : Request)
  | version
  | help
  | refused
  deriving DecidableEq

/-- The subcommands. -/
inductive Verb where
  | resolve
  | parse
  | check
  deriving DecidableEq, Repr

def Verb.ofName? (t : Text) : Option Verb :=
  if t = "resolve".toList then some .resolve
  else if t = "parse".toList then some .parse
  else if t = "check".toList then some .check
  else none

inductive Switch where
  | verbose
  | help
  | version
  | params
  | set
  | type
  | json
  deriving DecidableEq, Repr

namespace Switch

def takesValue : Switch → Bool
  | .params | .set | .type => true
  | _ => false

/-- The switches that a verb knows, and without a verb those that may precede it. -/
def known : Option Verb → List Switch
  | none => [.verbose, .help, .version]
  | some .resolve => [.verbose, .help, .params, .set, .type, .json]
  | some .parse => [.verbose, .help]
  | some .check => [.verbose, .help, .params, .set]

def long : Switch → Text
  | .verbose => "verbose".toList
  | .help => "help".toList
  | .version => "version".toList
  | .params => "params".toList
  | .set => "set".toList
  | .type => "type".toList
  | .json => "json".toList

def short : Switch → Option Char
  | .verbose => some 'v'
  | .help => some 'h'
  | .version => some 'V'
  | .params => some 'p'
  | .set => some 's'
  | .type => some 't'
  | .json => none

def ofLong? (verb : Option Verb) (name : Text) : Option Switch :=
  (known verb).find? (·.long == name)

def ofShort? (verb : Option Verb) (c : Char) : Option Switch :=
  (known verb).find? (·.short == some c)

end Switch

/-- What has been given so far after a verb, or before it. -/
structure Given where
  verbose : Bool
  json : Bool
  file : Option Text
  assignments : List Text
  wanted : Option ValueType
  expression : Option Text

/-- Why the arguments are not read any further. -/
inductive Stop where
  | refused
  | version
  | help

namespace Given

def nothing : Given := ⟨false, false, none, [], none, none⟩

/-- Gives a switch that takes no value. Only help and version may be repeated, for they end the
reading. -/
def flag (g : Given) : Switch → Except Stop Given
  | .verbose => if g.verbose then .error .refused else .ok { g with verbose := true }
  | .json => if g.json then .error .refused else .ok { g with json := true }
  | .help => .error .help
  | .version => .error .version
  | _ => .error .refused

/-- Gives a switch with its value. Only assignments may be repeated; a file name is not empty. -/
def value (g : Given) (v : Text) : Switch → Except Stop Given
  | .params =>
    if g.file.isSome ∨ v = [] then .error .refused else .ok { g with file := some v }
  | .set => .ok { g with assignments := g.assignments ++ [v] }
  | .type =>
    match g.wanted, ValueType.ofName? v with
    | none, some type => .ok { g with wanted := some type }
    | _, _ => .error .refused
  | _ => .error .refused

def positional (g : Given) (t : Text) : Except Stop Given :=
  match g.expression with
  | some _ => .error .refused
  | none => .ok { g with expression := some t }

def sources (g : Given) : Sources := ⟨g.file, g.assignments⟩

/-- The request of a verb; without an expression there is none. -/
def request? (g : Given) : Verb → Option Request
  | .resolve => g.expression.map fun e => .resolve e g.sources (g.wanted.getD .string) g.json
  | .parse => g.expression.map .parse
  | .check => g.expression.map fun e => .check e g.sources

end Given

/-- What one argument that begins with a hyphen does: it is done with, or its switch waits for the
next argument. -/
inductive Effect where
  | done (g : Given)
  | waits (g : Given) (switch : Switch)

/-- Reads a name after two hyphens, with a value after an equals sign. -/
def readLong (verb : Option Verb) (g : Given) (t : Text) : Except Stop Effect :=
  match Switch.ofLong? verb (t.takeWhile (· != '=')), t.dropWhile (· != '=') with
  | none, _ => .error .refused
  | some s, [] => if s.takesValue then .ok (.waits g s) else (g.flag s).map .done
  | some s, _ :: v => if s.takesValue then (g.value v s).map .done else .error .refused

/-- Reads letters after one hyphen. A letter that takes a value takes the rest of the argument. -/
def readShort (verb : Option Verb) (g : Given) : Text → Except Stop Effect
  | [] => .ok (.done g)
  | c :: t =>
    match Switch.ofShort? verb c with
    | none => .error .refused
    | some s =>
      if s.takesValue then
        match t with
        | [] => .ok (.waits g s)
        | '=' :: v => (g.value v s).map .done
        | v => (g.value v s).map .done
      else
        match g.flag s with
        | .error stop => .error stop
        | .ok g => readShort verb g t

/-- Whether an argument is a value or an expression, and not a switch: a lone hyphen is. -/
def isPlain : Text → Bool
  | ['-'] => true
  | '-' :: _ => false
  | _ => true

/-- Reads an argument that is not plain and not two hyphens alone. -/
def readSwitch (verb : Option Verb) (g : Given) : Text → Except Stop Effect
  | '-' :: '-' :: t => readLong verb g t
  | '-' :: t => readShort verb g t
  | _ => .error .refused

/-- Reads the arguments after a verb. After two hyphens alone every argument is plain. -/
def readArguments (verb : Verb) : Given → List Text → Except Stop Given
  | g, [] => .ok g
  | g, arg :: args =>
    if arg = ['-', '-'] then args.foldlM Given.positional g
    else if isPlain arg then
      match g.positional arg with
      | .ok g => readArguments verb g args
      | .error stop => .error stop
    else
      match readSwitch (some verb) g arg with
      | .error stop => .error stop
      | .ok (.done g) => readArguments verb g args
      | .ok (.waits g s) =>
        match args with
        | [] => .error .refused
        | v :: args =>
          if isPlain v then
            match g.value v s with
            | .ok g => readArguments verb g args
            | .error stop => .error stop
          else .error .refused

/-- Whether help is offered under a row of names. -/
def hasHelp : List Text → Bool
  | [] => true
  | [name] => (Verb.ofName? name).isSome || name == "help".toList
  | _ => false

/-- What is done with the arguments after a verb. -/
def finish (verbose : Bool) (verb : Verb) (args : List Text) : Invocation :=
  match readArguments verb .nothing args with
  | .error .refused => .refused
  | .error .version => .version
  | .error .help => .help
  | .ok g =>
    match g.request? verb with
    | some request => .run (verbose || g.verbose) request
    | none => .refused

/-- Reads the arguments up to the verb and hands over the rest. -/
def readBefore (g : Given) : List Text → Invocation
  | [] => .refused
  | arg :: args =>
    match Verb.ofName? arg with
    | some verb => finish g.verbose verb args
    | none =>
      if arg = "help".toList then if hasHelp args then .help else .refused
      else if arg = ['-', '-'] ∨ isPlain arg then .refused
      else
        match readSwitch none g arg with
        | .ok (.done g) => readBefore g args
        | .ok (.waits _ _) => .refused
        | .error .refused => .refused
        | .error .version => .version
        | .error .help => .help

/-- Reads a command line. -/
def Invocation.ofArguments (args : List Text) : Invocation := readBefore .nothing args

end ParameterTemplates.Command
