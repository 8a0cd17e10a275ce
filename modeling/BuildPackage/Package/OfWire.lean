import BuildPackage.Package.Boundary
import BuildPackage.Wire.Layout

set_option relaxedAutoImplicit false
set_option autoImplicit false

/-!
# Packages from messages

A package message becomes a package in three steps. First the setting is established: the build
file, the declared defaults and the included build files, which is all that depends on the workspace.
Then the targets are read and added one after another: input files, package groups, rules. At last
the package is finished, with or without a search for targets that reach into subpackages. The first
fault ends it all.

## Main definitions

* `BuildPackage.Setting.ofWire` — the setting of a message.
* `BuildPackage.Target.ofWire` — one target of a message.
* `BuildPackage.Builder.ofWire` — all targets of a message.
* `BuildPackage.Package.ofWire` — the package of a message.
* `BuildPackage.CheckedPackage.ofWire` — the package of a message with its crossings.
* `BuildPackage.readMessage` — the message of some bytes.
-/

namespace BuildPackage

/-! ## Settings -/

/-- The defaults of a message. Labels of a default visibility count only if it is said to be set. -/
def Defaults.ofWire (m : Wire.Package) : Except DecodeError Defaults := do
  let visibility ←
    if m.defaultVisibilitySet = some true then
      Visibility.ofLabels <$> readLabels m.defaultVisibility
    else pure .nobody
  let license ← (m.defaultLicense.map License.ofWire).getD (.ok .noLicense)
  let distributions ← readDistributions m.defaultDistributions
  return {
    visibility, license, distributions
    visibilitySet := m.defaultVisibilitySet.getD false
    obsolete := m.defaultObsolete.getD false
    testonly := m.defaultTestonly.getD false
    deprecation := m.defaultDeprecation }

/-- The included build file of a label: a file next to the build file of the label's package. -/
def Subinclude.ofWire (text : String) : Inquiry Subinclude := do
  let label ← Inquiry.ofExcept (readLabel text)
  let buildFile ← Inquiry.buildFile label.package (.unresolvedSubinclude label)
  return ⟨label, buildFile.parent.join label.name⟩

/-- What a package takes from the workspace, together with its defaults. -/
structure Setting where
  /-- The build file. -/
  buildFile : Path
  /-- The declared defaults. -/
  defaults : Defaults
  /-- The included build files. -/
  subincludes : List Subinclude

/-- The setting of a message. -/
def Setting.ofWire (m : Wire.Package) : Inquiry Setting := do
  let buildFile ← Inquiry.buildFile m.name (.buildFileNotFound m.name)
  let defaults ← Inquiry.ofExcept (Defaults.ofWire m)
  let subincludes ← m.subincludes.mapM Subinclude.ofWire
  return { buildFile, defaults, subincludes }

/-! ## Targets -/

/-- The label of a name in a package. Of the label that the message gives only the name is kept. -/
def readOwnLabel (package text : String) : Except DecodeError Label := do
  let label ← readLabel text
  (Label.ofParts package label.name).mapError .label

/-- The input file of a message. Visibility and license are declared together: with one of them, the
other is declared too. -/
def InputFile.ofWire (package : String) (buildFile : Path) (f : Wire.SourceFile) :
    Except DecodeError InputFile := do
  let label ← readOwnLabel package f.name
  let location := Location.ofWire buildFile f.location
  if f.visibility.isEmpty ∧ f.license.isNone then
    return { label, location, visibility := none, license := none }
  let visibility := Visibility.ofLabels (← readLabels f.visibility)
  let license ← License.ofWire (f.license.getD {})
  return { label, location, visibility := some visibility, license := some license }

/-- The package group of a message, whose specifications get two leading slashes. -/
def PackageGroup.ofWire (package : String) (buildFile : Path) (g : Wire.PackageGroup) :
    Except DecodeError PackageGroup := do
  let label ← readOwnLabel package g.name
  let includes ← readLabels g.included
  return {
    label, includes
    specs := g.contained.map ("//" ++ ·)
    location := Location.ofWire buildFile g.location }

/-- The rule of a message: first the class, then the label, then the attributes in order. -/
def Rule.ofWire (registry : Registry) (buildFile : Path) (r : Wire.Rule) :
    Except DecodeError Rule := do
  let some ruleClass := registry.ruleClass? r.ruleClass
    | .error (.unknownRuleClass r.ruleClass)
  let label ← readLabel r.name
  let attributes ← ruleClass.readAttributes buildFile r.attributes
  ruleClass.makeRule label (Location.ofWire buildFile r.location) attributes

/-- The target of a message, in a package and a build file. -/
def Target.ofWire (registry : Registry) (package : String) (buildFile : Path) :
    Wire.Target → Except DecodeError Target
  | .sourceFile f => inputFile <$> InputFile.ofWire package buildFile f
  | .packageGroup g => packageGroup <$> PackageGroup.ofWire package buildFile g
  | .rule r => rule <$> Rule.ofWire registry buildFile r

/-- Reads one more target of a message and adds it. -/
def Builder.addWire (registry : Registry) (b : Builder) (t : Wire.Target) :
    Except DecodeError Builder := do
  b.add (← Target.ofWire registry b.name b.buildFile t)

/-- The builder of a package in its setting, without targets. -/
def Builder.ofSetting (m : Wire.Package) (s : Setting) : Builder where
  name := m.name
  buildFile := s.buildFile
  defaults := s.defaults
  subincludes := s.subincludes.toArray
  makeEnvironment := .ofWire m.makeVariables
  containsErrors := m.containsErrors.getD false

/-- The builder of a message in its setting, with all targets. -/
def Builder.ofWire (registry : Registry) (m : Wire.Package) (s : Setting) :
    Except DecodeError Builder :=
  m.targets.foldlM (Builder.addWire registry) (.ofSetting m s)

/-! ## Packages -/

/-- A package with the events of its message. -/
structure Decoded (α : Type) where
  /-- The package. -/
  package : α
  /-- The events. -/
  events : EventLog
  deriving BEq

/-- The package of a message. -/
def Package.ofWire (registry : Registry) (m : Wire.Package) : Inquiry (Decoded Package) := do
  let setting ← Setting.ofWire m
  let builder ← Inquiry.ofExcept (Builder.ofWire registry m setting)
  return ⟨builder.build, .ofWire setting.buildFile m.events⟩

/-- The package of a message with the targets that reach into subpackages. -/
def CheckedPackage.ofWire (registry : Registry) (m : Wire.Package) :
    Inquiry (Decoded CheckedPackage) := do
  let setting ← Setting.ofWire m
  let builder ← Inquiry.ofExcept (Builder.ofWire registry m setting)
  let (log, result) ← builder.buildChecked (.ofWire setting.buildFile m.events)
  return ⟨← Inquiry.ofExcept result, log⟩

/-! ## Bytes -/

/-- The message of some bytes, unless there are too many. -/
def readMessage (data : ByteArray) : Except DecodeError Wire.Package :=
  if maxMessageSize < data.size then .error (.messageTooLarge data.size)
  else (Wire.Package.decode data).mapError .malformed

/-- The package of some bytes. -/
def Package.ofBytes (registry : Registry) (data : ByteArray) : Inquiry (Decoded Package) := do
  Package.ofWire registry (← Inquiry.ofExcept (readMessage data))

end BuildPackage
