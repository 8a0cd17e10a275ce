import BuildPackage.Proofs.Attribute.Spelling
import BuildPackage.Proofs.Package.Assembly

set_option relaxedAutoImplicit false
set_option autoImplicit false

/-!
# Spellings of the labels in messages

A label may be written in a message in a short form or in full. Decoding never looks at the text
again once the label is read: whichever labels of a message are written in full, decoding it is the
same inquiry as before. It asks the same questions in the same order, and gives the same package
with the same events or fails with the same error.

## Main definitions

* `BuildPackage.Wire.Package.Expands` — a message in which some labels are written in full.

## Main results

* `BuildPackage.InputFile.ofWire_expands`, `BuildPackage.PackageGroup.ofWire_expands`,
  `BuildPackage.Rule.ofWire_expands` — every kind of target is read as before.
* `BuildPackage.Setting.ofWire_expands` — the setting is established as before.
* `BuildPackage.Package.inWorkspace_expands` — the message is decoded as before.
-/

namespace BuildPackage

/-! ## Messages with labels in full -/

namespace Wire

/-- A source file in which some labels are written in full. -/
structure SourceFile.Expands (f f' : SourceFile) : Prop where
  /-- Nothing but labels differs. -/
  rest : { f' with name := f.name, visibility := f.visibility, license := f.license } = f
  /-- The name is the label, perhaps in full. -/
  name : Label.Expands f.name f'.name
  /-- The visibility consists of the labels, some of them in full. -/
  visibility : List.Forall₂ Label.Expands f.visibility f'.visibility
  /-- The license is the license, perhaps with exceptions in full. -/
  license : Option.Rel License.Expands f.license f'.license

/-- A package group in which some labels are written in full. -/
structure PackageGroup.Expands (g g' : PackageGroup) : Prop where
  /-- Nothing but labels differs. -/
  rest : { g' with name := g.name, included := g.included } = g
  /-- The name is the label, perhaps in full. -/
  name : Label.Expands g.name g'.name
  /-- The groups included are the labels, some of them in full. -/
  included : List.Forall₂ Label.Expands g.included g'.included

/-- A rule in which some labels are written in full. -/
structure Rule.Expands (registry : Registry) (r r' : Rule) : Prop where
  /-- Nothing but labels differs. -/
  rest : { r' with name := r.name, attributes := r.attributes } = r
  /-- The name is the label, perhaps in full. -/
  name : Label.Expands r.name r'.name
  /-- The attributes are the attributes, under their declared types, some labels in full. -/
  attributes : List.Forall₂
    (fun a a' => a.Expands ((registry.ruleClass? r.ruleClass).bind (·.attributeType? a.name)) a')
    r.attributes r'.attributes

/-- A message in which some labels are written in full. -/
structure Package.Expands (registry : Registry) (m m' : Package) : Prop where
  /-- Nothing but labels differs. -/
  rest : { m' with
    defaultVisibility := m.defaultVisibility, defaultLicense := m.defaultLicense
    subincludes := m.subincludes, sourceFiles := m.sourceFiles
    packageGroups := m.packageGroups, rules := m.rules } = m
  /-- The default visibility consists of the labels, some of them in full. -/
  defaultVisibility : List.Forall₂ Label.Expands m.defaultVisibility m'.defaultVisibility
  /-- The default license is the license, perhaps with exceptions in full. -/
  defaultLicense : Option.Rel License.Expands m.defaultLicense m'.defaultLicense
  /-- The included build files are the labels, some of them in full. -/
  subincludes : List.Forall₂ Label.Expands m.subincludes m'.subincludes
  /-- The source files are the files, some labels in full. -/
  sourceFiles : List.Forall₂ SourceFile.Expands m.sourceFiles m'.sourceFiles
  /-- The package groups are the groups, some labels in full. -/
  packageGroups : List.Forall₂ PackageGroup.Expands m.packageGroups m'.packageGroups
  /-- The rules are the rules, some labels in full. -/
  rules : List.Forall₂ (Rule.Expands registry) m.rules m'.rules

end Wire

/-! ## Targets -/

lemma readOwnLabel_expands (package : String) {text text' : String}
    (h : Label.Expands text text') : readOwnLabel package text' = readOwnLabel package text := by
  rw [readOwnLabel, readOwnLabel, readLabel_expands h]

/-- A source file with labels in full is read as the file. -/
theorem InputFile.ofWire_expands {f f' : Wire.SourceFile} (h : f.Expands f') (package : String)
    (buildFile : Path) :
    InputFile.ofWire package buildFile f' = InputFile.ofWire package buildFile f := by
  have hlocation : f'.location = f.location := congrArg (·.location) h.rest
  have hempty : f'.visibility.isEmpty = f.visibility.isEmpty := by
    rw [Bool.eq_iff_iff, List.isEmpty_iff_length_eq_zero, List.isEmpty_iff_length_eq_zero,
      h.visibility.length_eq]
  have hnone : ∀ {l l' : Option Wire.License}, Option.Rel Wire.License.Expands l l' →
      l'.isNone = l.isNone := by
    rintro _ _ (_ | _) <;> rfl
  simp only [ofWire, hlocation, hempty, hnone h.license, readOwnLabel_expands package h.name,
    readLabels_expands h.visibility, License.ofWire_getD_expands h.license]

/-- A package group with labels in full is read as the group. -/
theorem PackageGroup.ofWire_expands {g g' : Wire.PackageGroup} (h : g.Expands g')
    (package : String) (buildFile : Path) :
    PackageGroup.ofWire package buildFile g' = PackageGroup.ofWire package buildFile g := by
  have hcontained : g'.contained = g.contained := congrArg (·.contained) h.rest
  have hlocation : g'.location = g.location := congrArg (·.location) h.rest
  simp only [ofWire, hcontained, hlocation, readOwnLabel_expands package h.name,
    readLabels_expands h.included]

/-- Under its class, an attribute with labels in full is read as the attribute. -/
lemma RuleClass.decode_expands {c : RuleClass} {a a' : Wire.Attribute}
    (h : a.Expands (c.attributeType? a.name) a') (buildFile : Path) :
    c.decode buildFile a' = c.decode buildFile a := by
  rw [decode, decode, h.name_eq, attributeType]
  cases hdecl : c.attributeType? a.name with
  | none => rfl
  | some declared =>
    rw [hdecl] at h
    exact Attribute.ofWire_expands h buildFile

/-- Attributes with labels in full are read as the attributes. -/
lemma RuleClass.readAttributes_expands {c : RuleClass} {as as' : List Wire.Attribute}
    (h : List.Forall₂ (fun a a' => a.Expands (c.attributeType? a.name) a') as as')
    (buildFile : Path) : c.readAttributes buildFile as' = c.readAttributes buildFile as := by
  refine (Outcome.foldlM_congr (h.imp fun a a' ha m => ?_) ∅).symm
  rw [readAttribute_eq, readAttribute_eq, ha.name_eq, decode_expands ha]

/-- A rule with labels in full is read as the rule. -/
theorem Rule.ofWire_expands {registry : Registry} {r r' : Wire.Rule} (h : r.Expands registry r')
    (buildFile : Path) : Rule.ofWire registry buildFile r' = Rule.ofWire registry buildFile r := by
  have hclass : r'.ruleClass = r.ruleClass := congrArg (·.ruleClass) h.rest
  have hlocation : r'.location = r.location := congrArg (·.location) h.rest
  unfold ofWire
  rw [hclass, hlocation, readLabel_expands h.name]
  cases hc : registry.ruleClass? r.ruleClass with
  | none => rfl
  | some c =>
    have hattributes := h.attributes
    rw [hc] at hattributes
    simp only [RuleClass.readAttributes_expands hattributes buildFile]

variable {registry : Registry} {m m' : Wire.Package}

/-- Targets with labels in full are added as the targets. -/
theorem Builder.ofWire_expands (h : m.Expands registry m') (s : Setting) :
    Builder.ofWire registry m' s = Builder.ofWire registry m s := by
  have hname : m'.name = m.name := congrArg (·.name) h.rest
  have hmake : m'.makeVariables = m.makeVariables := congrArg (·.makeVariables) h.rest
  have herrors : m'.containsErrors = m.containsErrors := congrArg (·.containsErrors) h.rest
  refine ofWire_congr hname hmake herrors (Wire.Package.forall₂_targets ?_ ?_ ?_) s
  · refine h.sourceFiles.imp fun f f' hf package buildFile => ?_
    simp only [Target.ofWire, InputFile.ofWire_expands hf]
  · refine h.packageGroups.imp fun g g' hg package buildFile => ?_
    simp only [Target.ofWire, PackageGroup.ofWire_expands hg]
  · refine h.rules.imp fun r r' hr package buildFile => ?_
    simp only [Target.ofWire, Rule.ofWire_expands hr]

/-! ## Settings -/

/-- Defaults with labels in full are read as the defaults. -/
lemma Defaults.ofWire_expands (h : m.Expands registry m') :
    Defaults.ofWire m' = Defaults.ofWire m := by
  have hset : m'.defaultVisibilitySet = m.defaultVisibilitySet :=
    congrArg (·.defaultVisibilitySet) h.rest
  have hobsolete : m'.defaultObsolete = m.defaultObsolete := congrArg (·.defaultObsolete) h.rest
  have htestonly : m'.defaultTestonly = m.defaultTestonly := congrArg (·.defaultTestonly) h.rest
  have hdeprecation : m'.defaultDeprecation = m.defaultDeprecation :=
    congrArg (·.defaultDeprecation) h.rest
  have hdistributions : m'.defaultDistributions = m.defaultDistributions :=
    congrArg (·.defaultDistributions) h.rest
  have hlicense : ∀ {l l' : Option Wire.License}, Option.Rel Wire.License.Expands l l' →
      l'.map License.ofWire = l.map License.ofWire := by
    rintro _ _ (hl | _)
    · exact congrArg some (License.ofWire_expands hl)
    · rfl
  simp only [ofWire, hset, hobsolete, htestonly, hdeprecation, hdistributions,
    hlicense h.defaultLicense, readLabels_expands h.defaultVisibility]

/-- A setting with labels in full is established as the setting, with the same questions. -/
theorem Setting.ofWire_expands (h : m.Expands registry m') :
    Setting.ofWire m' = Setting.ofWire m := by
  have hname : m'.name = m.name := congrArg (·.name) h.rest
  have hsubincludes : m.subincludes.mapM Subinclude.ofWire =
      m'.subincludes.mapM Subinclude.ofWire := by
    refine Outcome.mapM_congr (h.subincludes.imp fun text text' ht => ?_)
    rw [Subinclude.ofWire, Subinclude.ofWire, readLabel_expands ht]
  simp only [ofWire, hname, Defaults.ofWire_expands h, hsubincludes]

/-! ## Packages -/

/-- A message with labels in full is assembled as the message. -/
lemma assemble_expands (h : m.Expands registry m') :
    assemble registry m' = assemble registry m := by
  have hevents : m'.events = m.events := congrArg (·.events) h.rest
  simp only [assemble, Setting.ofWire_expands h, Builder.ofWire_expands h, hevents]

/-- Decoding does not depend on whether labels are written in full: it asks the same questions in
the same order and comes to the same result, with and without a search for subpackages.

**Proof sketch.** A label is read from its full form as from its short one (`Expands.parse_eq`).
Part by part, reading therefore gives the same value or the same error. The loops over labels,
attributes and targets act alike step by step, so they come to the same. -/
theorem Package.inWorkspace_expands (h : m.Expands registry m') (w : Workspace) :
    (Package.ofWire registry m').inWorkspace w = (Package.ofWire registry m).inWorkspace w ∧
      (CheckedPackage.ofWire registry m').inWorkspace w =
        (CheckedPackage.ofWire registry m).inWorkspace w := by
  constructor
  · rw [Package.ofWire_eq, Package.ofWire_eq, assemble_expands h]
  · rw [CheckedPackage.ofWire_eq, CheckedPackage.ofWire_eq, assemble_expands h]

/-- A rule named after its package, with a label that is no dependency and an excepted target, in a
package that includes a build file of another one. -/
theorem Package.inWorkspace_expands_of_nodep :
    let registry : Registry := .register .empty ⟨"binary", .ofList [
      ("srcs", AttributeType.labelList), ("plugin", AttributeType.nodepLabel)]⟩
    let w : Workspace := ⟨fun package => some ⟨package ++ "/BUILD"⟩, fun _ => some false⟩
    let attributes : List Wire.Attribute := [
      { name := "srcs", discriminator := 6, strings := ["//app", "//lib:x"] },
      { name := "plugin", discriminator := 2, string := some "//lib/lint" }]
    let m : Wire.Package := {
      name := "app"
      defaultLicense := some { types := ["notice"], exceptions := ["//app"] }
      subincludes := ["//lib/lint"]
      rules := [{ name := "//app", ruleClass := "binary", attributes }] }
    let attributes' : List Wire.Attribute := [
      { name := "srcs", discriminator := 6, strings := ["//app:app", "//lib:x"] },
      { name := "plugin", discriminator := 2, string := some "//lib/lint:lint" }]
    let m' : Wire.Package := { m with
      defaultLicense := some { types := ["notice"], exceptions := ["//app:app"] }
      subincludes := ["//lib/lint:lint"]
      rules := [{ name := "//app:app", ruleClass := "binary", attributes := attributes' }] }
    m.Expands registry m' ∧
      ((Package.ofWire registry m).inWorkspace w).2.isOk = true ∧
      (Package.ofWire registry m').inWorkspace w = (Package.ofWire registry m).inWorkspace w ∧
      (CheckedPackage.ofWire registry m').inWorkspace w =
        (CheckedPackage.ofWire registry m).inWorkspace w := by
  intro registry w attributes m attributes' m'
  have happ : Label.Expands "//app" "//app:app" := @Label.Expands.full "app" (by decide) (by decide)
  have hlint : Label.Expands "//lib/lint" "//lib/lint:lint" :=
    @Label.Expands.full "lib/lint" (by decide) (by decide)
  have hplugin : (registry.ruleClass? "binary").bind (·.attributeType? "plugin") =
      some .nodepLabel := by decide +kernel
  have hrule : (m.rules[0]).Expands registry m'.rules[0] := by
    refine ⟨rfl, happ, .cons ?_ (.cons ?_ .nil)⟩
    · exact ⟨rfl, .inl rfl, .inr ⟨.inl rfl, .cons happ (.cons (.same _) .nil)⟩, .none, .nil, .nil⟩
    · exact ⟨rfl, .inr ⟨.inr (.inr ⟨rfl, hplugin⟩), .some hlint⟩, .inl rfl, .none, .nil, .nil⟩
  have h : m.Expands registry m' :=
    ⟨rfl, .nil, .some ⟨.cons (.same _) .nil, .cons happ .nil⟩, .cons hlint .nil, .nil, .nil,
      .cons hrule .nil⟩
  exact ⟨h, by decide +kernel, Package.inWorkspace_expands h w⟩

end BuildPackage
