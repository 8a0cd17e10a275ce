import BuildPackage.Inspect.Run

set_option relaxedAutoImplicit false
set_option autoImplicit false

/-!
# The command line of the inspector

Prints the summary of a package message, or an error as a JSON object.

## Main definitions

* `main` — reads the arguments, answers the probes of the inspector and prints the result.
-/

namespace BuildPackage

/-- The fault that an error of the system stands for. -/
def ReadFault.ofError : IO.Error → ReadFault
  | .noFileOrDirectory _ _ _ => notFound
  | .inappropriateType _ code _ => if code = 21 then isDirectory else notDirectory
  | .invalidArgument _ 36 _ => nameTooLong
  | e => other (toString e)

/-- Reads a file of the system. -/
def readSystemFile (path : String) : IO (Except ReadFault ByteArray) :=
  try return .ok (← IO.FS.readBinFile path)
  catch e => return .error (.ofError e)

/-- Whether the system has a file, which is so if a first byte of it can be read or it is empty. -/
def isSystemFile (path : String) : IO Bool :=
  try
    IO.FS.withFile path .read fun handle => do
      let _ ← handle.read 1
    return true
  catch _ => return false

/-- The answer of the system to a probe. -/
def systemAnswer : (p : Probe) → IO p.Answer
  | .readFile path => readSystemFile path.text
  | .isFile path => isSystemFile path.text

/-- How the inspector is called. -/
def usage : String :=
  "Decode a serialized build package\n\n" ++
    "Usage: inspect [OPTIONS] --registry <REGISTRY> <MESSAGE>\n\n" ++
    "Arguments:\n" ++
    "  <MESSAGE>  Serialized package message\n\n" ++
    "Options:\n" ++
    "      --registry <REGISTRY>  JSON rule-class registry\n" ++
    "      --root <ROOT>          Workspace root containing the package directories\n" ++
    "      --legacy               Check subpackage boundaries\n" ++
    "  -h, --help                 Print help\n" ++
    "  -V, --version              Print version\n"

/-- The wording of a refused command line. -/
def UsageError.message : UsageError → String
  | missingRequired => "a required argument is missing"
  | unknownArgument => "unexpected argument found"
  | givenTwice => "an argument cannot be used multiple times"
  | invalidValue => "a value is required"
  | unexpectedValue => "unexpected value for a flag"
  | help => usage
  | version => "inspect 0.1.0"

/-- An error as a JSON object. -/
def InspectError.toJson (e : InspectError) : Json :=
  .object [("error", .object [("kind", .text e.kindName), ("message", .text e.message)])]

end BuildPackage

open BuildPackage in
/-- Prints the summary for the arguments. -/
def main (args : List String) : IO UInt32 := do
  match Arguments.parse args with
  | .error e =>
    if e = .help ∨ e = .version then
      IO.println e.message
      return 0
    IO.eprintln ("error: " ++ e.message)
    return 2
  | .ok arguments =>
    match ← (inspect arguments).run.runM systemAnswer with
    | .ok summary =>
      IO.println (Json.object summary).pretty
      return 0
    | .error e =>
      IO.eprintln e.toJson.pretty
      return 1
