import BuildPackage.Event
import BuildPackage.Package.Builder
import BuildPackage.Package.Inquiry

set_option relaxedAutoImplicit false
set_option autoImplicit false

/-!
# Package boundaries

A file target with slashes in its name lies in a directory below its package. If that directory, or
one above it, is a package of its own, the target crosses the boundary of a subpackage. The check
asks for each directory whether it is a package, the outermost first, and reports each crossing as
an error.

## Main definitions

* `BuildPackage.directories` — the directories that a target name passes through.
* `BuildPackage.Crossing` — a target with the subpackage that it reaches into.
* `BuildPackage.patrol` — the search over the file targets of a package.
* `BuildPackage.Builder.buildChecked` — the finished package with its crossings.
-/

namespace BuildPackage

/-! ## Directories -/

/-- The directory of some segments below a package. -/
def directoryBelow (package : String) (segments : List (List Char)) : String :=
  if package.isEmpty then String.ofList (Segments.join segments)
  else package ++ "/" ++ String.ofList (Segments.join segments)

/-- The directories that a target name passes through, the outermost first. -/
def directories (package name : String) : List String :=
  let segments := Segments.split name.toList
  (List.range (segments.length - 1)).map fun n => directoryBelow package (segments.take (n + 1))

/-! ## Crossings -/

/-- A file target that reaches into a subpackage. -/
structure Crossing where
  /-- The label of the target. -/
  label : Label
  /-- The subpackage. -/
  subpackage : String
  deriving DecidableEq

/-- The report of a crossing, at the place of the target's declaration. -/
def Crossing.event (c : Crossing) (location : Location) : Event where
  kind := .error
  location := some location
  message := s!"label '{c.label.text}' crosses boundary of subpackage '{c.subpackage}'"

/-- What comes of looking at the directories of one target. -/
inductive Passage where
  /-- No directory is a package. -/
  | clear
  /-- A directory is a package, and none before it. -/
  | crosses (subpackage : String)
  /-- The search was interrupted. -/
  | interrupted
  deriving DecidableEq, Repr

/-- Looks at directories in order, up to the first that is a package. -/
def passThrough : List String → Survey Passage
  | [] => .done .clear
  | d :: rest => .ask (.isPackage d) fun
    | none => .done .interrupted
    | some true => .done (.crosses d)
    | some false => passThrough rest

/-- What comes of looking at some files. -/
structure Patrol where
  /-- The crossings found, with the places of the targets. -/
  crossings : List (Crossing × Location)
  /-- Whether the search was interrupted. -/
  interrupted : Bool

/-- Looks at some files of a package in order, up to an interruption. -/
def patrol (package : String) : List OutputFile → Survey Patrol
  | [] => .done ⟨[], false⟩
  | f :: rest => do
    match ← passThrough (directories package f.label.name) with
    | .clear => patrol package rest
    | .crosses d =>
      let found ← patrol package rest
      return { found with crossings := (⟨f.label, d⟩, f.location) :: found.crossings }
    | .interrupted => return ⟨[], true⟩

/-- A package with the targets that reach into its subpackages. -/
structure CheckedPackage where
  /-- The package. -/
  package : Package
  /-- The crossings. -/
  crossings : List Crossing
  deriving BEq

namespace Builder

/-- The file targets with the places of their declarations: input files and then output files. -/
def files (b : Builder) : List OutputFile :=
  b.inputFiles.toList.map (fun f => ⟨f.label, f.location⟩) ++ b.outputFiles.toList

/-- The finished package with its crossings, each of which is reported as an error and makes the
package one that contains errors. An interruption leaves the reports of the crossings before it. -/
def buildChecked (b : Builder) (log : EventLog) :
    Survey (EventLog × Except DecodeError CheckedPackage) := do
  let found ← patrol b.name b.files
  let log := log.append (found.crossings.map fun c => c.1.event c.2)
  if found.interrupted then return (log, .error .interrupted)
  let containsErrors := b.containsErrors || !found.crossings.isEmpty
  return (log, .ok ⟨{ b.build with containsErrors }, found.crossings.map Prod.fst⟩)

end Builder

end BuildPackage
