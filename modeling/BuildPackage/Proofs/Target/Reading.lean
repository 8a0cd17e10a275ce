import BuildPackage.Package.OfWire
import BuildPackage.Proofs.Label.Reading
import BuildPackage.Proofs.Target.Rule

set_option relaxedAutoImplicit false
set_option autoImplicit false

/-!
# Targets from messages

What reading one target succeeds with, for each of the three kinds, and when it succeeds at all. The
parts of a target are read one after another, but none of them depends on another, so a target is
read exactly if all of its parts are.

## Main definitions

* `BuildPackage.InputFile.Renders` — an input file that comes from a source file.
* `BuildPackage.PackageGroup.Renders` — a package group that comes from a group of a message.
* `BuildPackage.Rule.Renders` — a rule that comes from a rule of a message.

## Main results

* `BuildPackage.InputFile.renders_of_ofWire`, `BuildPackage.InputFile.isOk_ofWire_iff`
* `BuildPackage.PackageGroup.renders_of_ofWire`, `BuildPackage.PackageGroup.isOk_ofWire_iff`
* `BuildPackage.Rule.renders_of_ofWire`, `BuildPackage.Rule.isOk_ofWire_iff`
-/

namespace BuildPackage

/-! ## Labels -/

/-- Of the label that the message gives, the own label of a target has the name. -/
lemma readOwnLabel_eq_ok_iff {package text : String} {l : Label} :
    readOwnLabel package text = .ok l ↔
      l.package = package ∧ ∃ given, Label.parse text = .ok given ∧ l.name = given.name := by
  simp only [readOwnLabel, Label.ofParts, Outcome.bind_eq_ok_iff, readLabel_eq_ok_iff,
    Outcome.mapError_eq_ok_iff, Label.check_eq_ok_iff]
  constructor
  · rintro ⟨given, hg, hp, hn⟩
    exact ⟨hp, given, hg, hn⟩
  · rintro ⟨hp, given, hg, hn⟩
    exact ⟨given, hg, hp, hn⟩

/-- A target has an own label exactly if the message gives a label and the package is named
properly. -/
lemma isOk_readOwnLabel_iff {package text : String} :
    (readOwnLabel package text).isOk = true ↔
      packageFault? package = none ∧ (Label.parse text).isOk = true := by
  simp only [Outcome.isOk_iff, readOwnLabel_eq_ok_iff]
  constructor
  · rintro ⟨l, rfl, given, hg, -⟩
    exact ⟨l.package_valid, given, hg⟩
  · rintro ⟨hp, given, hg⟩
    exact ⟨⟨package, given.name, hp, given.name_valid⟩, rfl, given, hg, rfl⟩

/-! ## Input files -/

/-- The policy of an input file that comes from a source file: with a visibility or a license, both
are declared, and otherwise neither is. -/
structure InputFile.RendersPolicy (f : Wire.SourceFile) (x : InputFile) : Prop where
  /-- Without both nothing is declared. -/
  undeclared : f.visibility = [] → f.license = none → x.visibility = none ∧ x.license = none
  /-- With one of them both are declared, the missing one as empty. -/
  declared : f.visibility ≠ [] ∨ f.license.isSome = true → ∃ labels license,
    List.Forall₂ (fun text l => Label.parse text = .ok l) f.visibility labels ∧
      License.ofWire (f.license.getD {}) = .ok license ∧
        x.visibility = some (Visibility.ofLabels labels) ∧ x.license = some license

/-- An input file that comes from a source file. -/
structure InputFile.Renders (package : String) (buildFile : Path) (f : Wire.SourceFile)
    (x : InputFile) : Prop where
  /-- The label is in the package. -/
  package_eq : x.label.package = package
  /-- The name is that of the label given. -/
  name : ∃ given, Label.parse f.name = .ok given ∧ x.label.name = given.name
  /-- The place is that of the declaration. -/
  location : x.location.Renders buildFile f.location
  /-- The policy is the one declared. -/
  policy : x.RendersPolicy f

/-- An input file that is read renders its source file. -/
theorem InputFile.renders_of_ofWire {package : String} {buildFile : Path} {f : Wire.SourceFile}
    {x : InputFile} (h : InputFile.ofWire package buildFile f = .ok x) :
    x.Renders package buildFile f := by
  simp only [InputFile.ofWire, Outcome.bind_eq_ok_iff] at h
  obtain ⟨label, hlabel, h⟩ := h
  obtain ⟨hp, hn⟩ := readOwnLabel_eq_ok_iff.1 hlabel
  have hloc := Location.renders_ofWire buildFile f.location
  split_ifs at h with hnone
  · obtain rfl := Except.ok.inj h
    refine ⟨hp, hn, hloc, fun _ _ => ⟨rfl, rfl⟩, fun hd => ?_⟩
    rw [List.isEmpty_iff, Option.isNone_iff_eq_none] at hnone
    simp [hnone] at hd
  · simp only [Outcome.bind_eq_ok_iff, Outcome.pure_eq_ok_iff, readLabels_eq_ok_iff] at h
    obtain ⟨labels, hlabels, license, hlicense, rfl⟩ := h
    refine ⟨hp, hn, hloc, fun hv hl => ?_, fun _ => ⟨labels, license, hlabels, hlicense, rfl, rfl⟩⟩
    exact absurd ⟨List.isEmpty_iff.2 hv, Option.isNone_iff_eq_none.2 hl⟩ hnone

/-- A source file is read exactly if the package is named properly and its labels and its license
are in order. -/
theorem InputFile.isOk_ofWire_iff {package : String} {buildFile : Path} {f : Wire.SourceFile} :
    (InputFile.ofWire package buildFile f).isOk = true ↔
      packageFault? package = none ∧ (Label.parse f.name).isOk = true ∧
        (∀ text ∈ f.visibility, (Label.parse text).isOk = true) ∧
          ∀ license ∈ f.license, (License.ofWire license).isOk = true := by
  have hlicense : (License.ofWire (f.license.getD {})).isOk = true ↔
      ∀ license ∈ f.license, (License.ofWire license).isOk = true := by
    cases f.license with
    | none => exact iff_of_true rfl (by simp)
    | some license => simp
  rw [← and_assoc, ← isOk_readOwnLabel_iff, ← isOk_readLabels_iff, ← hlicense, InputFile.ofWire]
  refine Outcome.isOk_bind_iff fun label => ?_
  split_ifs with hnone
  · -- Nothing is read here, and there is nothing that could fail.
    rw [List.isEmpty_iff, Option.isNone_iff_eq_none] at hnone
    rw [hnone.1, hnone.2]
    exact iff_of_true rfl ⟨rfl, rfl⟩
  · exact Outcome.isOk_bind_iff fun labels => by rw [Outcome.isOk_bind_pure]

/-! ## Package groups -/

/-- A package group that comes from a group of a message. -/
structure PackageGroup.Renders (package : String) (buildFile : Path) (g : Wire.PackageGroup)
    (x : PackageGroup) : Prop where
  /-- The label is in the package. -/
  package_eq : x.label.package = package
  /-- The name is that of the label given. -/
  name : ∃ given, Label.parse g.name = .ok given ∧ x.label.name = given.name
  /-- The specifications have two leading slashes and stand in their order. -/
  specs : x.specs = g.contained.map ("//" ++ ·)
  /-- The groups included are the labels given, in their order. -/
  includes : List.Forall₂ (fun text l => Label.parse text = .ok l) g.included x.includes
  /-- The place is that of the declaration. -/
  location : x.location.Renders buildFile g.location

/-- A package group that is read renders its message. -/
theorem PackageGroup.renders_of_ofWire {package : String} {buildFile : Path}
    {g : Wire.PackageGroup} {x : PackageGroup}
    (h : PackageGroup.ofWire package buildFile g = .ok x) : x.Renders package buildFile g := by
  simp only [PackageGroup.ofWire, Outcome.bind_eq_ok_iff, Outcome.pure_eq_ok_iff,
    readLabels_eq_ok_iff] at h
  obtain ⟨label, hlabel, includes, hincludes, rfl⟩ := h
  obtain ⟨hp, hn⟩ := readOwnLabel_eq_ok_iff.1 hlabel
  exact ⟨hp, hn, rfl, hincludes, Location.renders_ofWire _ _⟩

/-- A group is read exactly if the package is named properly and its labels are in order. -/
theorem PackageGroup.isOk_ofWire_iff {package : String} {buildFile : Path}
    {g : Wire.PackageGroup} :
    (PackageGroup.ofWire package buildFile g).isOk = true ↔
      packageFault? package = none ∧ (Label.parse g.name).isOk = true ∧
        ∀ text ∈ g.included, (Label.parse text).isOk = true := by
  rw [← and_assoc, ← isOk_readOwnLabel_iff, ← isOk_readLabels_iff, PackageGroup.ofWire]
  exact Outcome.isOk_bind_iff fun label => by rw [Outcome.isOk_bind_pure]

/-! ## Rules -/

/-- The outputs that a rule of a message declares under one attribute name. -/
def Wire.Rule.outputsNamed (registry : Registry) (r : Wire.Rule) (name : String) : List Label :=
  match registry.ruleClass? r.ruleClass with
  | some c => c.outputsNamed r.attributes name
  | none => []

/-- In a class that is known, a rule of a message declares what its attributes declare there. -/
lemma Wire.Rule.outputsNamed_eq_of_ruleClass? {registry : Registry} {r : Wire.Rule} {c : RuleClass}
    (h : registry.ruleClass? r.ruleClass = some c) :
    r.outputsNamed registry = c.outputsNamed r.attributes := by
  funext n
  rw [outputsNamed, h]

/-- The outputs that a rule of a message declares, name by name. -/
def Wire.Rule.outputs (registry : Registry) (r : Wire.Rule) : List Label :=
  (r.attributes.map Wire.Attribute.name).dedup.flatMap (r.outputsNamed registry)

/-- A rule that comes from a rule of a message. -/
structure Rule.Renders (registry : Registry) (buildFile : Path) (r : Wire.Rule) (x : Rule) :
    Prop where
  /-- The label is the one given. -/
  label : Label.parse r.name = .ok x.label
  /-- The class is the one named. -/
  ruleClass : x.ruleClass = r.ruleClass
  /-- The place is that of the declaration. -/
  location : x.location.Renders buildFile r.location
  /-- The attributes have the names that occur. -/
  mem_attributes : ∀ n, n ∈ x.attributes ↔ n ∈ r.attributes.map Wire.Attribute.name
  /-- Under each name is the last attribute of that name. -/
  attributes : ∀ n a, Wire.lastNamed? r.attributes n = some a → ∃ d declared,
    x.attributes[n]? = some d ∧
      (registry.ruleClass? r.ruleClass).bind (·.attributeType? n) = some declared ∧
        d.Renders declared buildFile a
  /-- The outputs are those declared, in the order of the attribute names. -/
  outputs : x.outputs = x.attributes.keys.flatMap (r.outputsNamed registry)

lemma Registry.ruleClass?_eq_some_iff {registry : Registry} {name : String} {c : RuleClass} :
    registry.ruleClass? name = some c ↔
      registry.declarations[name]? = some c.attributes ∧ c.name = name := by
  rw [Registry.ruleClass?, Option.map_eq_some_iff]
  constructor
  · rintro ⟨attributes, ha, rfl⟩
    exact ⟨ha, rfl⟩
  · rintro ⟨ha, rfl⟩
    exact ⟨c.attributes, ha, rfl⟩

/-- A rule is read in the class that it names: its label, its attributes, and from these its
outputs.

**Proof sketch.** Making the rule looks up the types of the attributes once more. They have been
looked up when the attributes were read, so nothing is refused here. -/
theorem Rule.ofWire_eq_ok_iff {registry : Registry} {buildFile : Path} {r : Wire.Rule} {x : Rule} :
    Rule.ofWire registry buildFile r = .ok x ↔
      ∃ c, registry.ruleClass? r.ruleClass = some c ∧ Label.parse r.name = .ok x.label ∧
        c.readAttributes buildFile r.attributes = .ok x.attributes ∧
          x = ⟨x.label, r.ruleClass, Location.ofWire buildFile r.location, x.attributes,
            x.attributes.keys.flatMap (r.outputsNamed registry)⟩ := by
  unfold Rule.ofWire
  cases hc : registry.ruleClass? r.ruleClass with
  | none => simp
  | some c =>
    have hname : c.name = r.ruleClass := (Registry.ruleClass?_eq_some_iff.1 hc).2
    simp only [Outcome.bind_eq_ok_iff, readLabel_eq_ok_iff, RuleClass.makeRule_eq_ok_iff,
      Wire.Rule.outputsNamed_eq_of_ruleClass? hc, ← hname, Option.some.injEq, exists_eq_left']
    constructor
    · rintro ⟨label, hl, m, hm, -, rfl⟩
      refine ⟨hl, hm, ?_⟩
      rw [RuleClass.outputs_of_readAttributes hm]
    · rintro ⟨hl, hm, hx⟩
      refine ⟨x.label, hl, x.attributes, hm,
        fun n hn => RuleClass.isSome_attributeType?_of_readAttributes hm hn, ?_⟩
      rw [RuleClass.outputs_of_readAttributes hm]
      exact hx

/-- A rule is read exactly if its class is known, its label is in order, and every attribute, also
one that is replaced later, is declared and decodes. -/
theorem Rule.isOk_ofWire_iff {registry : Registry} {buildFile : Path} {r : Wire.Rule} :
    (Rule.ofWire registry buildFile r).isOk = true ↔
      (Label.parse r.name).isOk = true ∧ ∃ c, registry.ruleClass? r.ruleClass = some c ∧
        ∀ a ∈ r.attributes, ∃ declared, c.attributeType? a.name = some declared ∧
          (AttributeValue.ofWire declared a).isOk = true := by
  simp only [← RuleClass.isOk_decode_iff buildFile]
  simp only [Outcome.isOk_iff (x := Label.parse r.name),
    Outcome.isOk_iff (x := Rule.ofWire registry buildFile r), Rule.ofWire_eq_ok_iff]
  constructor
  · rintro ⟨x, c, hc, hl, hm, -⟩
    exact ⟨⟨x.label, hl⟩, c, hc, (RuleClass.readAttributes_eq_ok_iff.1 hm).1⟩
  · rintro ⟨⟨label, hl⟩, c, hc, hall⟩
    obtain ⟨m, hm⟩ := Outcome.isOk_iff.1 (RuleClass.isOk_readAttributes hall)
    exact ⟨⟨label, r.ruleClass, Location.ofWire buildFile r.location, m,
      m.keys.flatMap (r.outputsNamed registry)⟩, c, hc, hl, hm, rfl⟩

/-- A rule that is read renders its message. -/
theorem Rule.renders_of_ofWire {registry : Registry} {buildFile : Path} {r : Wire.Rule} {x : Rule}
    (h : Rule.ofWire registry buildFile r = .ok x) : x.Renders registry buildFile r := by
  obtain ⟨c, hc, hl, hm, hx⟩ := Rule.ofWire_eq_ok_iff.1 h
  have hloc : x.location.Renders buildFile r.location := by
    rw [congrArg Rule.location hx]
    exact Location.renders_ofWire buildFile r.location
  refine ⟨hl, congrArg Rule.ruleClass hx, hloc, RuleClass.mem_of_readAttributes hm,
    fun n a ha => ?_, congrArg Rule.outputs hx⟩
  obtain ⟨declared, d, ht, hof, hget⟩ := RuleClass.getElem?_of_readAttributes hm ha
  refine ⟨d, declared, hget, ?_, Attribute.renders_of_ofWire hof⟩
  rw [hc]
  exact ht

/-- The outputs of a rule that is read are those that its message declares, up to order. -/
lemma Rule.outputs_perm_of_ofWire {registry : Registry} {buildFile : Path} {r : Wire.Rule}
    {x : Rule} (h : Rule.ofWire registry buildFile r = .ok x) :
    x.outputs.Perm (r.outputs registry) := by
  obtain ⟨c, -, -, hm, hx⟩ := Rule.ofWire_eq_ok_iff.1 h
  rw [hx]
  exact (RuleClass.keys_perm_of_readAttributes hm).flatMap_right _

end BuildPackage
