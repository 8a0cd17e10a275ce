import BuildPackage.MakeEnvironment
import BuildPackage.Target.Basic

set_option relaxedAutoImplicit false
set_option autoImplicit false

/-!
# Packages

A package is the targets of one build file together with the defaults that it declares for them.

## Main definitions

* `BuildPackage.Defaults` — what applies to targets that say nothing themselves.
* `BuildPackage.Package` — a finished package.
* `BuildPackage.Package.rule?`, `BuildPackage.Package.inputFile?`,
  `BuildPackage.Package.packageGroup?` — the target of a name.
-/

namespace BuildPackage

/-- What applies to targets that say nothing themselves. -/
structure Defaults where
  /-- Who may depend on a target. -/
  visibility : Visibility := .nobody
  /-- Whether the build file declares a default visibility. -/
  visibilitySet : Bool := false
  /-- Whether targets are obsolete. -/
  obsolete : Bool := false
  /-- Whether targets are for tests only. -/
  testonly : Bool := false
  /-- The deprecation notice. -/
  deprecation : Option String := none
  /-- The license. -/
  license : License := .noLicense
  /-- The distributions. -/
  distributions : Std.ExtTreeSet Distribution := ∅
  deriving DecidableEq

/-- A build file that is included by the package's own. -/
structure Subinclude where
  /-- The label that it is included by. -/
  label : Label
  /-- Where it is. -/
  path : Path
  deriving BEq

/-- A finished package. -/
structure Package where
  /-- The package name. -/
  name : String
  /-- The build file. -/
  buildFile : Path
  /-- The declared defaults. -/
  defaults : Defaults
  /-- The included build files. -/
  subincludes : List Subinclude
  /-- The make variables. -/
  makeEnvironment : MakeEnvironment
  /-- The input files. -/
  inputFiles : List InputFile
  /-- The package groups. -/
  packageGroups : List PackageGroup
  /-- The rules. -/
  rules : List Rule
  /-- The files that the rules make. -/
  outputFiles : List Label
  /-- Whether evaluating the build file found errors. -/
  containsErrors : Bool
  deriving BEq

namespace Package

/-- The directory of the build file. -/
def directory (p : Package) : Path := p.buildFile.parent

/-- The rule of a name. -/
def rule? (p : Package) (name : String) : Option Rule := p.rules.find? fun r => r.name = name

/-- The input file of a name. -/
def inputFile? (p : Package) (name : String) : Option InputFile :=
  p.inputFiles.find? fun f => f.name = name

/-- The package group of a name. -/
def packageGroup? (p : Package) (name : String) : Option PackageGroup :=
  p.packageGroups.find? fun g => g.name = name

end Package

end BuildPackage
