import BuildPackage.Package.Builder

set_option relaxedAutoImplicit false
set_option autoImplicit false

/-!
# Builders in place

A builder can be changed in place, one write after another. A refusal breaks the writes off, and
those made by then stay. Adding a target in place therefore looks at everything before it writes
anything: at the label, at the name, and at every output of a rule in turn.

## Main definitions

* `BuildPackage.Edit` — steps on a builder in place.
* `BuildPackage.Builder.insertInputFile`, `BuildPackage.Builder.insertPackageGroup`,
  `BuildPackage.Builder.insertRule` — add a target in place.
* `BuildPackage.Builder.tryInsert` — the builder that an addition leaves, refused or not.
* `BuildPackage.Builder.accepted` — the targets of a sequence that are not refused.
-/

namespace BuildPackage

/-- Steps on a builder in place. A refusal keeps what has been written before it. -/
abbrev Edit : Type → Type := EStateM DecodeError Builder

namespace Builder

/-! ## Checks -/

/-- Refuses a label outside the package. -/
def checkOwned (label : Label) : Edit Unit := do
  let b ← get
  if label.package ≠ b.name then throw (.outsidePackage label b.name)

/-- Refuses a name that is taken. -/
def checkFree (kind : TargetKind) (name : String) : Edit Unit := do
  let b ← get
  if b.containsTarget name then throw (.nameTaken kind name b.name)

/-- Looks at the label of a target. -/
def checkLabel (kind : TargetKind) (label : Label) : Edit Unit := do
  checkOwned label
  checkFree kind label.name

/-- Looks at one output of a rule: at its label, and then at its name, which has to differ from that
of the rule and of the outputs seen before it and has to be free. -/
def checkOutput (rule : String) (seen : NameTable) (label : Label) : Edit Unit := do
  checkOwned label
  let b ← get
  if label.name = rule ∨ seen.contains label.name then
    throw (.nameTaken .outputFile label.name b.name)
  checkFree .outputFile label.name

/-- Looks at the outputs of a rule in turn. -/
def checkOutputs (rule : String) (seen : NameTable) : List Label → Edit Unit
  | [] => return
  | label :: rest => do
    checkOutput rule seen label
    checkOutputs rule (seen.insert label.name) rest

/-! ## Writes -/

/-- Takes a name. -/
def takeName (name : String) : Edit Unit :=
  modify fun b => { b with names := b.names.insert name }

/-- Takes the name of an output and keeps the output. -/
def registerOutput (file : OutputFile) : Edit Unit := do
  takeName file.label.name
  modify fun b => { b with outputFiles := b.outputFiles.push file }

/-- Adds an input file. -/
def insertInputFile (file : InputFile) : Edit Unit := do
  checkLabel .inputFile file.label
  takeName file.name
  modify fun b => { b with inputFiles := b.inputFiles.push file }

/-- Adds a package group. -/
def insertPackageGroup (group : PackageGroup) : Edit Unit := do
  checkLabel .packageGroup group.label
  takeName group.name
  modify fun b => { b with packageGroups := b.packageGroups.push group }

/-- Adds a rule with its outputs. -/
def insertRule (rule : Rule) : Edit Unit := do
  checkLabel .rule rule.label
  checkOutputs rule.name ∅ rule.outputs
  takeName rule.name
  forM rule.outputFiles registerOutput
  modify fun b => { b with rules := b.rules.push rule }

/-- Adds a target. -/
def insert : Target → Edit Unit
  | .inputFile file => insertInputFile file
  | .packageGroup group => insertPackageGroup group
  | .rule rule => insertRule rule

/-! ## Sequences with refusals -/

/-- Whether a target can be added. -/
def accepts (b : Builder) (t : Target) : Bool :=
  match (insert t).run b with
  | .ok _ _ => true
  | .error _ _ => false

/-- The builder that an attempt to add a target leaves, whether or not it is refused. -/
def tryInsert (b : Builder) (t : Target) : Builder :=
  match (insert t).run b with
  | .ok _ b' => b'
  | .error _ b' => b'

/-- The targets of a sequence of attempts that are not refused, each by the builder that the attempts
before it leave. -/
def accepted (b : Builder) : List Target → List Target
  | [] => []
  | t :: ts =>
    if b.accepts t then t :: accepted (b.tryInsert t) ts else accepted (b.tryInsert t) ts

end Builder

end BuildPackage
