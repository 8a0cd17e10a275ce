import BuildPackage.Package.Basic

set_option relaxedAutoImplicit false
set_option autoImplicit false

/-!
# Package builders

A builder gathers the targets of one package. All targets share one table of names, in which every
name stands once, and a rule enters it together with its outputs: either all of them are added or
nothing is.

## Main definitions

* `BuildPackage.Builder` — a package under construction.
* `BuildPackage.Builder.add` — adds a target, or refuses it.
* `BuildPackage.Builder.Change` — all that can be done to a builder.
* `BuildPackage.Builder.build` — the finished package.
-/

namespace BuildPackage

/-- A file that a rule makes. -/
structure OutputFile where
  /-- The label. -/
  label : Label
  /-- Where its rule was declared. -/
  location : Location

/-- The files that a rule makes, at the place of the rule's declaration. -/
def Rule.outputFiles (r : Rule) : List OutputFile := r.outputs.map fun label => ⟨label, r.location⟩

/-- The names that are taken in a package. -/
abbrev NameTable : Type := Std.ExtTreeSet String

/-- A package under construction. -/
structure Builder where
  /-- The package name. -/
  name : String
  /-- The build file. -/
  buildFile : Path := ⟨""⟩
  /-- The declared defaults. -/
  defaults : Defaults := {}
  /-- The included build files. -/
  subincludes : Array Subinclude := #[]
  /-- The make variables. -/
  makeEnvironment : MakeEnvironment := .empty
  /-- The input files. -/
  inputFiles : Array InputFile := #[]
  /-- The package groups. -/
  packageGroups : Array PackageGroup := #[]
  /-- The rules. -/
  rules : Array Rule := #[]
  /-- The files that the rules make. -/
  outputFiles : Array OutputFile := #[]
  /-- The names of all targets. -/
  names : NameTable := ∅
  /-- Whether evaluating the build file found errors. -/
  containsErrors : Bool := false

namespace Builder

/-- The builder of a package without targets. -/
def empty (name : String) : Builder := { name }

/-! ## Targets -/

/-- Whether a name is taken. -/
def containsTarget (b : Builder) (name : String) : Bool := b.names.contains name

/-- The number of targets. -/
def targetCount (b : Builder) : Nat := b.names.size

/-- Takes the name of a label, which has to lie in the package and to be free. -/
def claim (package : String) (kind : TargetKind) (names : NameTable) (label : Label) :
    Except DecodeError NameTable :=
  if label.package ≠ package then .error (.outsidePackage label package)
  else if names.contains label.name then .error (.nameTaken kind label.name package)
  else .ok (names.insert label.name)

/-- Takes the name of a target and then the names of its outputs, in order. -/
def claimAll (package : String) (names : NameTable) (t : Target) :
    Except DecodeError NameTable := do
  let names ← claim package t.kind names t.label
  t.outputs.foldlM (claim package .outputFile) names

/-- Puts a target at the end of the targets of its kind. -/
def record (b : Builder) : Target → Builder
  | .inputFile f => { b with inputFiles := b.inputFiles.push f }
  | .packageGroup g => { b with packageGroups := b.packageGroups.push g }
  | .rule r => { b with
      rules := b.rules.push r
      outputFiles := b.outputFiles ++ r.outputFiles }

/-- Adds a target with its outputs. A refused target leaves no trace. -/
def add (b : Builder) (t : Target) : Except DecodeError Builder := do
  let names ← claimAll b.name b.names t
  return { b.record t with names }

/-- Adds targets in order, up to the first that is refused. -/
def addAll (b : Builder) (targets : List Target) : Except DecodeError Builder :=
  targets.foldlM add b

/-! ## Changes -/

/-- What can be done to a builder. -/
inductive Change where
  /-- Sets the build file. -/
  | setBuildFile (path : Path)
  /-- Sets the default visibility, which counts as declared from then on. -/
  | setDefaultVisibility (visibility : Visibility)
  /-- Says whether a default visibility is declared. -/
  | setDefaultVisibilitySet (isSet : Bool)
  /-- Sets whether targets are obsolete. -/
  | setDefaultObsolete (obsolete : Bool)
  /-- Sets whether targets are for tests only. -/
  | setDefaultTestonly (testonly : Bool)
  /-- Sets the deprecation notice. -/
  | setDefaultDeprecation (notice : String)
  /-- Sets the default license. -/
  | setDefaultLicense (license : License)
  /-- Sets the default distributions. -/
  | setDefaultDistributions (distributions : Std.ExtTreeSet Distribution)
  /-- Adds an included build file. -/
  | addSubinclude (file : Subinclude)
  /-- Sets the make variables. -/
  | setMakeEnvironment (env : MakeEnvironment)
  /-- Notes that evaluating the build file found errors. -/
  | setContainsErrors
  /-- Adds a target. -/
  | add (target : Target)

/-- Applies a change. Only a target can be refused. -/
def apply (b : Builder) : Change → Except DecodeError Builder
  | .setBuildFile path => .ok { b with buildFile := path }
  | .setDefaultVisibility visibility =>
    .ok { b with defaults := { b.defaults with visibility, visibilitySet := true } }
  | .setDefaultVisibilitySet isSet =>
    .ok { b with defaults := { b.defaults with visibilitySet := isSet } }
  | .setDefaultObsolete obsolete => .ok { b with defaults := { b.defaults with obsolete } }
  | .setDefaultTestonly testonly => .ok { b with defaults := { b.defaults with testonly } }
  | .setDefaultDeprecation notice =>
    .ok { b with defaults := { b.defaults with deprecation := some notice } }
  | .setDefaultLicense license => .ok { b with defaults := { b.defaults with license } }
  | .setDefaultDistributions distributions =>
    .ok { b with defaults := { b.defaults with distributions } }
  | .addSubinclude file => .ok { b with subincludes := b.subincludes.push file }
  | .setMakeEnvironment env => .ok { b with makeEnvironment := env }
  | .setContainsErrors => .ok { b with containsErrors := true }
  | .add target => b.add target

/-- Applies a change, or nothing if it is refused. -/
def applyIfAccepted (b : Builder) (c : Change) : Builder :=
  match b.apply c with
  | .ok b' => b'
  | .error _ => b

/-- The builder after a sequence of changes, of which some may be refused. -/
def afterChanges (name : String) (changes : List Change) : Builder :=
  changes.foldl applyIfAccepted (empty name)

/-! ## Finishing -/

/-- The finished package. -/
def build (b : Builder) : Package where
  name := b.name
  buildFile := b.buildFile
  defaults := b.defaults
  subincludes := b.subincludes.toList
  makeEnvironment := b.makeEnvironment
  inputFiles := b.inputFiles.toList
  packageGroups := b.packageGroups.toList
  rules := b.rules.toList
  outputFiles := b.outputFiles.toList.map OutputFile.label
  containsErrors := b.containsErrors

end Builder

end BuildPackage
