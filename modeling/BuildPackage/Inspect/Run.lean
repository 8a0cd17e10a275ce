import BuildPackage.Inspect.Arguments
import BuildPackage.Inspect.Document
import BuildPackage.Inspect.FileTree
import BuildPackage.Inspect.Summary
import BuildPackage.Package.OfWire

set_option relaxedAutoImplicit false
set_option autoImplicit false

/-!
# The inspector

The inspector decodes one message and sums it up. It reads the registry, then the message, and looks
for build files below the workspace root: the build file of a package is the file `BUILD` in the
package's directory, and a directory is a package if it has one.

## Main definitions

* `BuildPackage.Probe` — what the inspector asks of the file system.
* `BuildPackage.InspectError` — why there is no summary.
* `BuildPackage.Registry.ofDocument` — the registry of a document.
* `BuildPackage.inspect` — the summary for some arguments.
-/

namespace BuildPackage

/-! ## Probes -/

/-- What the inspector asks of the file system. -/
inductive Probe where
  /-- The bytes of a file. -/
  | readFile (path : Path)
  /-- Whether there is a file. -/
  | isFile (path : Path)

/-- The answers to a probe. -/
abbrev Probe.Answer : Probe → Type
  | readFile _ => Except ReadFault ByteArray
  | isFile _ => Bool

/-- The answer of a file tree to a probe. -/
def FileTree.answer (t : FileTree) : (p : Probe) → p.Answer
  | .readFile path => t.readFile path
  | .isFile path => t.isFile path

/-! ## Errors -/

/-- Why there is no summary. -/
inductive InspectError where
  /-- A file is not read. -/
  | unreadable (path : Path) (fault : ReadFault)
  /-- The registry is no document. What is wrong with its text is left out: that would be told in
  the words of the reader of JSON texts. -/
  | badRegistry
  /-- The registry names an unknown type. -/
  | unknownType (ruleClass typeName : String)
  /-- The message is no package. -/
  | decode (error : DecodeError)

namespace InspectError

/-- The name of the kind of an error. -/
def kindName : InspectError → String
  | unreadable _ _ => "io"
  | badRegistry | unknownType _ _ => "registry"
  | decode error => error.kind.name

/-- The wording of an error. For a registry that is no document it ends before the detail. -/
def message : InspectError → String
  | unreadable path fault => s!"failed to read {path.text}: {fault.message}"
  | badRegistry => "invalid registry"
  | unknownType ruleClass typeName =>
    s!"rule class '{ruleClass}' declares unknown attribute type '{typeName}'"
  | decode error => error.message

end InspectError

/-- A computation that asks about files and may fail. -/
abbrev Inspection : Type → Type := ExceptT InspectError (Dialogue Probe Probe.Answer)

namespace Inspection

variable {α : Type}

/-- A computation that asks nothing. -/
def ofExcept (e : Except InspectError α) : Inspection α := ExceptT.mk (.done e)

/-- Reads a file. -/
def read (path : Path) : Inspection ByteArray :=
  ExceptT.mk <| .ask (.readFile path) fun
    | .ok data => .done (.ok data)
    | .error fault => .done (.error (.unreadable path fault))

end Inspection

/-! ## The registry -/

/-- The declared attributes of a class, in the order of their names, up to one of an unknown type. -/
def RuleClass.ofTypes (name : String) (types : Std.ExtTreeMap String String) :
    Except InspectError RuleClass := do
  let attributes ← types.toList.mapM fun a =>
    match AttributeType.ofName? a.2 with
    | some type => .ok (a.1, type)
    | none => .error (.unknownType name a.2)
  return ⟨name, .ofList attributes⟩

/-- The registry of a document. Classes are looked at in the order of their names. -/
def Registry.ofDocument (d : Document) : Except InspectError Registry := do
  let classes ← d.types.toList.mapM fun c => RuleClass.ofTypes c.1 c.2
  return classes.foldl Registry.register .empty

/-- Reads the registry of a file. -/
def readRegistry (path : Path) : Inspection Registry := do
  match Document.ofBytes? (← Inspection.read path) with
  | none => throw .badRegistry
  | some d => Inspection.ofExcept (Registry.ofDocument d)

/-! ## Build files -/

/-- Where the build file of a directory below the root would be. -/
def buildFileIn (root : Path) (directory : String) : Path := (root.join directory).join "BUILD"

/-- Answers a question about the workspace by looking for a build file. -/
def lookUp (root : Path) : (q : Question) → Dialogue Probe Probe.Answer q.Answer
  | .buildFile package =>
    .ask (.isFile (buildFileIn root package)) fun found =>
      .done (if found then some (buildFileIn root package) else none)
  | .isPackage directory => .ask (.isFile (buildFileIn root directory)) fun found =>
      .done (some found)

/-- Holds an inquiry with the workspace below a root. -/
def Inquiry.belowRoot {α : Type} (root : Path) (i : Inquiry α) : Inspection α :=
  ExceptT.mk do
    match ← i.run.translate (lookUp root) with
    | .ok a => return .ok a
    | .error e => return .error (.decode e)

/-! ## The run -/

/-- The members of the summary for some arguments. -/
def inspect (args : Arguments) : Inspection (List (String × Json)) := do
  let registry ← readRegistry ⟨args.registry⟩
  let data ← Inspection.read ⟨args.message⟩
  let message ← Inspection.ofExcept ((readMessage data).mapError .decode)
  if args.legacy then
    let decoded ← (CheckedPackage.ofWire registry message).belowRoot ⟨args.root⟩
    return decoded.package.summary decoded.events
  else
    let decoded ← (Package.ofWire registry message).belowRoot ⟨args.root⟩
    return decoded.package.summary decoded.events

end BuildPackage
