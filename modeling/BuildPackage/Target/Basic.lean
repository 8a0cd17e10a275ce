import BuildPackage.Target.Rule
import BuildPackage.Visibility

set_option relaxedAutoImplicit false
set_option autoImplicit false

/-!
# Targets

What a package holds: input files, package groups and rules. The files that a rule makes are targets
as well, but are added with their rule.

## Main definitions

* `BuildPackage.InputFile` — a file with its own policy, if any.
* `BuildPackage.PackageGroup` — a group of packages.
* `BuildPackage.PackageGroup.contains` — whether a package belongs to a group.
* `BuildPackage.Target` — any target that can be added to a package.
-/

namespace BuildPackage

/-- A file of a package. -/
structure InputFile where
  /-- The label. -/
  label : Label
  /-- Where the file was declared. -/
  location : Location
  /-- Its own visibility. -/
  visibility : Option Visibility
  /-- Its own license. -/
  license : Option License
  deriving BEq

/-- The target name. -/
def InputFile.name (f : InputFile) : String := f.label.name

/-- A group of packages, given by specifications and by other groups. -/
structure PackageGroup where
  /-- The label. -/
  label : Label
  /-- The specifications of packages. -/
  specs : List String
  /-- The groups that belong to this one. -/
  includes : List Label
  /-- Where the group was declared. -/
  location : Location
  deriving BEq

namespace PackageGroup

/-- The target name. -/
def name (g : PackageGroup) : String := g.label.name

/-- What ends a specification that covers the packages below a package. -/
def belowMark : List Char := "/...".toList

/-- A specification without its leading slashes. -/
def specBody (spec : String) : List Char :=
  match spec.toList with
  | '/' :: '/' :: body => body
  | body => body

/-- Whether a package is given by the body of a specification: by a package and all below it, by all
packages, or by one package. -/
def bodyMatches (body package : List Char) : Bool :=
  if belowMark <:+ body then
    let base := body.take (body.length - belowMark.length)
    package = base || base ++ ['/'] <+: package
  else body = "...".toList || body = package

/-- Whether a specification covers a package. -/
def specMatches (spec package : String) : Bool := bodyMatches (specBody spec) package.toList

/-- Whether a package belongs to the group by one of its own specifications. -/
def contains (g : PackageGroup) (package : String) : Bool :=
  g.specs.any fun spec => specMatches spec package

end PackageGroup

/-- A target that can be added to a package. -/
inductive Target where
  | inputFile (file : InputFile)
  | packageGroup (group : PackageGroup)
  | rule (rule : Rule)

namespace Target

/-- The kind of a target. -/
def kind : Target → TargetKind
  | inputFile _ => .inputFile
  | packageGroup _ => .packageGroup
  | rule _ => .rule

/-- The label of a target. -/
def label : Target → Label
  | inputFile f => f.label
  | packageGroup g => g.label
  | rule r => r.label

/-- The files that a target makes. -/
def outputs : Target → List Label
  | rule r => r.outputs
  | _ => []

end Target

end BuildPackage
