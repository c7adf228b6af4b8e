import ParameterTemplates.Command.Run

/-! The command line program: it reads the parameter file and prints the answer. -/
namespace ParameterTemplates.Command

/-- The fault behind a failed read. -/
def faultOf : IO.Error → FileFault
  | .permissionDenied _ _ _ => .notPermitted
  | .inappropriateType _ _ _ => .isDirectory
  | _ => .notFound

/-- The content of a file. -/
def readContent (path : Text) : IO (Except FileFault Text) := do
  try
    let bytes ← IO.FS.readBinFile (String.ofList path)
    match String.fromUTF8? bytes with
    | some s => return .ok s.toList
    | none => return .error .notText
  catch e => return .error (faultOf e)

end ParameterTemplates.Command

open ParameterTemplates.Command in
def main (args : List String) : IO UInt32 := do
  let args := args.map String.toList
  let content ← match fileOf? args with
    | some path => readContent path
    | none => pure (.error .notFound)
  let a := answer (fun _ => content) args
  IO.eprint (String.ofList a.diagnostics)
  IO.print (String.ofList a.output)
  return a.exitCode.toUInt32
