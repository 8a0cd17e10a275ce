import BuildPackage.Proofs.Package.Assembly

set_option relaxedAutoImplicit false
set_option autoImplicit false

/-!
# Messages that are packages

Which messages decode. Decoding goes through the targets one after another, with a table of names
that grows on the way and a map of attributes in which later ones replace earlier ones. What it asks
of the message does not depend on any of that: every part has to be in order by itself, all labels
of rules and outputs have to lie in the package, and no name may occur twice in the whole message.

## Main definitions

* `BuildPackage.Wire.Package.targetNames` — the names of all targets that a message declares.
* `BuildPackage.Wire.Package.Acceptable` — messages whose parts are in order.

## Main results

* `BuildPackage.Builder.vacant_iff` — when there is room for all targets of a message.
* `BuildPackage.Package.exists_ofWire_iff` — the messages that decode are the acceptable ones.
-/

namespace BuildPackage

/-! ## Acceptable messages -/

namespace Wire

/-- The name in a label text. -/
def nameGiven? (text : String) : Option String := (Label.parse text).toOption.map Label.name

/-- The names of all targets that a message declares: input files, package groups, rules, and the
outputs of the rules. -/
def Package.targetNames (registry : Registry) (m : Package) : List String :=
  m.sourceFiles.filterMap (nameGiven? ·.name) ++ m.packageGroups.filterMap (nameGiven? ·.name) ++
    (m.rules.filterMap (nameGiven? ·.name) ++
      m.rules.flatMap fun r => (r.outputs registry).map Label.name)

/-- A source file whose parts are in order. -/
structure SourceFile.Acceptable (f : SourceFile) : Prop where
  /-- The name is a label. -/
  name : (Label.parse f.name).isOk = true
  /-- The visibility consists of labels. -/
  visibility : ∀ text ∈ f.visibility, (Label.parse text).isOk = true
  /-- The license, if there is one, is a license. -/
  license : ∀ license ∈ f.license, (License.ofWire license).isOk = true

/-- A package group whose parts are in order. -/
structure PackageGroup.Acceptable (g : PackageGroup) : Prop where
  /-- The name is a label. -/
  name : (Label.parse g.name).isOk = true
  /-- The groups included are labels. -/
  included : ∀ text ∈ g.included, (Label.parse text).isOk = true

/-- A rule that lies in a package together with its outputs. -/
structure Rule.Owned (registry : Registry) (package : String) (r : Rule) : Prop where
  /-- The name is a label of the package. -/
  name : ∃ label, Label.parse r.name = .ok label ∧ label.package = package
  /-- The outputs are labels of the package. -/
  outputs : ∀ label ∈ r.outputs registry, label.package = package

/-- A rule of a package whose parts are in order. -/
structure Rule.Acceptable (registry : Registry) (package : String) (r : Rule) : Prop
    extends Rule.Owned registry package r where
  /-- The class is known, and every attribute is declared by it and decodes under its type, also one
  that a later attribute of the same name replaces. -/
  attributes : ∃ c, registry.ruleClass? r.ruleClass = some c ∧ ∀ a ∈ r.attributes, ∃ declared,
    c.attributeType? a.name = some declared ∧ (AttributeValue.ofWire declared a).isOk = true

/-- A message whose parts are in order, in a workspace. -/
structure Package.Acceptable (registry : Registry) (w : Workspace) (m : Package) : Prop where
  /-- The workspace has a build file for the package. -/
  buildFile : (w.buildFile? m.name).isSome = true
  /-- The default visibility, if it is said to be set, consists of labels. -/
  defaultVisibility : m.defaultVisibilitySet = some true →
    ∀ text ∈ m.defaultVisibility, (Label.parse text).isOk = true
  /-- The default license, if there is one, is a license. -/
  defaultLicense : ∀ license ∈ m.defaultLicense, (License.ofWire license).isOk = true
  /-- The default distributions are known. -/
  defaultDistributions :
    ∀ token ∈ m.defaultDistributions, (Distribution.ofToken? token).isSome = true
  /-- The included build files are labels of packages that have a build file. -/
  subincludes : ∀ text ∈ m.subincludes, ∃ label, Label.parse text = .ok label ∧
    (w.buildFile? label.package).isSome = true
  /-- The package name is one, if a label has to be made with it. -/
  name : m.sourceFiles ≠ [] ∨ m.packageGroups ≠ [] → packageFault? m.name = none
  /-- The source files are in order. -/
  sourceFiles : ∀ f ∈ m.sourceFiles, f.Acceptable
  /-- The package groups are in order. -/
  packageGroups : ∀ g ∈ m.packageGroups, g.Acceptable
  /-- The rules are in order. -/
  rules : ∀ r ∈ m.rules, r.Acceptable registry m.name
  /-- No name occurs twice. -/
  targetNames : (m.targetNames registry).Nodup

end Wire

/-! ## Room for all targets -/

variable {registry : Registry} {m : Wire.Package} {buildFile : Path} {files : List InputFile}
  {groups : List PackageGroup} {rules : List Rule}

/-- The names of the targets that are read are those that the message declares, up to order.

**Proof sketch.** Kind by kind: the name of an input file or a package group is the one in its label
text, and so is that of a rule, whose outputs are those declared in another order. -/
lemma names_perm_targetNames
    (hf : m.sourceFiles.mapM (InputFile.ofWire m.name buildFile) = .ok files)
    (hg : m.packageGroups.mapM (PackageGroup.ofWire m.name buildFile) = .ok groups)
    (hr : m.rules.mapM (Rule.ofWire registry buildFile) = .ok rules) :
    (((Target.ofKinds files groups rules).flatMap Target.labels).map Label.name).Perm
      (m.targetNames registry) := by
  have hfiles : m.sourceFiles.filterMap (Wire.nameGiven? ·.name) = files.map InputFile.name := by
    refine Outcome.filterMap_eq_map_of_forall₂ ((Outcome.mapM_eq_ok_iff.1 hf).imp fun f x hx => ?_)
    obtain ⟨given, hgiven, hname⟩ := (InputFile.renders_of_ofWire hx).name
    simp [Wire.nameGiven?, hgiven, Except.toOption, InputFile.name, hname]
  have hgroups : m.packageGroups.filterMap (Wire.nameGiven? ·.name) =
      groups.map PackageGroup.name := by
    refine Outcome.filterMap_eq_map_of_forall₂ ((Outcome.mapM_eq_ok_iff.1 hg).imp fun g x hx => ?_)
    obtain ⟨given, hgiven, hname⟩ := (PackageGroup.renders_of_ofWire hx).name
    simp [Wire.nameGiven?, hgiven, Except.toOption, PackageGroup.name, hname]
  have hrules : m.rules.filterMap (Wire.nameGiven? ·.name) = rules.map Rule.name := by
    refine Outcome.filterMap_eq_map_of_forall₂ ((Outcome.mapM_eq_ok_iff.1 hr).imp fun r x hx => ?_)
    simp [Wire.nameGiven?, (Rule.renders_of_ofWire hx).label, Except.toOption, Rule.name]
  have houtputs : (m.rules.flatMap fun r => (r.outputs registry).map Label.name).Perm
      (rules.flatMap fun x => x.outputs.map Label.name) := by
    refine Outcome.flatMap_perm_of_forall₂ ((Outcome.mapM_eq_ok_iff.1 hr).imp fun r x hx => ?_)
    exact (Rule.outputs_perm_of_ofWire hx).symm.map Label.name
  have hlabels : ((Target.ofKinds files groups rules).flatMap Target.labels).map Label.name =
      files.map InputFile.name ++ groups.map PackageGroup.name ++
        rules.flatMap fun x => x.name :: x.outputs.map Label.name := by
    simp only [Target.ofKinds, List.flatMap_append, List.map_append, List.map_flatMap,
      List.flatMap_map, Target.labels, Target.label, Target.outputs, List.map_cons,
      ← List.map_eq_flatMap, List.map_map]
    rfl
  rw [hlabels, Wire.Package.targetNames, hfiles, hgroups, hrules]
  refine List.Perm.append_left _ ?_
  exact ((houtputs.append_left _).trans (List.map_append_flatMap_perm rules Rule.name _)).symm

/-- There is room for all targets that are read exactly if the labels of the rules and their outputs
lie in the package and no name is declared twice. -/
theorem vacant_iff
    (hf : m.sourceFiles.mapM (InputFile.ofWire m.name buildFile) = .ok files)
    (hg : m.packageGroups.mapM (PackageGroup.ofWire m.name buildFile) = .ok groups)
    (hr : m.rules.mapM (Rule.ofWire registry buildFile) = .ok rules) :
    Vacant m.name ∅ ((Target.ofKinds files groups rules).flatMap Target.labels) ↔
      (∀ r ∈ m.rules, r.Owned registry m.name) ∧ (m.targetNames registry).Nodup := by
  have hfiles : ∀ x ∈ files, x.label.package = m.name :=
    Outcome.forall_mem_of_mapM hf fun _ _ hx => (InputFile.renders_of_ofWire hx).package_eq
  have hgroups : ∀ x ∈ groups, x.label.package = m.name :=
    Outcome.forall_mem_of_mapM hg fun _ _ hx => (PackageGroup.renders_of_ofWire hx).package_eq
  have hrules : (∀ r ∈ m.rules, r.Owned registry m.name) ↔
      ∀ x ∈ rules, x.label.package = m.name ∧ ∀ label ∈ x.outputs, label.package = m.name := by
    refine Outcome.forall_mem_iff_of_forall₂ ((Outcome.mapM_eq_ok_iff.1 hr).imp fun r x hx => ?_)
    have hlabel := (Rule.renders_of_ofWire hx).label
    have hmem := fun label => (Rule.outputs_perm_of_ofWire hx).mem_iff (a := label)
    constructor
    · rintro ⟨⟨label, hl, hp⟩, ho⟩
      obtain rfl := Except.ok.inj (hl.symm.trans hlabel)
      exact ⟨hp, fun l h => ho l ((hmem l).1 h)⟩
    · rintro ⟨hp, ho⟩
      exact ⟨⟨x.label, hlabel, hp⟩, fun l h => ho l ((hmem l).2 h)⟩
  have howned : (∀ l ∈ (Target.ofKinds files groups rules).flatMap Target.labels,
      l.package = m.name) ↔
      ∀ x ∈ rules, x.label.package = m.name ∧ ∀ label ∈ x.outputs, label.package = m.name := by
    simp only [Target.ofKinds, List.flatMap_append, List.flatMap_map, List.forall_mem_append,
      List.forall_mem_flatMap, Target.labels, Target.label, Target.outputs, List.forall_mem_cons]
    simpa using fun _ => ⟨hfiles, hgroups⟩
  rw [Vacant.empty_iff, (names_perm_targetNames hf hg hr).nodup_iff, howned, hrules]

/-! ## Acceptance -/

variable {w : Workspace} {s : Setting}

/-- All targets of a message can be read and added exactly if each of them is read, the labels of
the rules and their outputs lie in the package, and no name is declared twice. -/
theorem Builder.isOk_ofWire_iff :
    (Builder.ofWire registry m s).isOk = true ↔
      (∀ f ∈ m.sourceFiles, (InputFile.ofWire m.name s.buildFile f).isOk = true) ∧
      (∀ g ∈ m.packageGroups, (PackageGroup.ofWire m.name s.buildFile g).isOk = true) ∧
      (∀ r ∈ m.rules, (Rule.ofWire registry s.buildFile r).isOk = true) ∧
      (∀ r ∈ m.rules, r.Owned registry m.name) ∧ (m.targetNames registry).Nodup := by
  simp only [← Outcome.isOk_mapM_iff]
  simp only [Outcome.isOk_iff, Builder.ofWire_eq_ok_iff]
  constructor
  · rintro ⟨_, files, groups, rules, hf, hg, hr, hv, -⟩
    exact ⟨⟨files, hf⟩, ⟨groups, hg⟩, ⟨rules, hr⟩, (vacant_iff hf hg hr).1 hv⟩
  · rintro ⟨⟨files, hf⟩, ⟨groups, hg⟩, ⟨rules, hr⟩, hv⟩
    exact ⟨_, files, groups, rules, hf, hg, hr, (vacant_iff hf hg hr).2 hv, rfl⟩

/-- Whether all targets can be added does not depend on the build file, which only decides where
they are said to be declared. -/
lemma Builder.isOk_ofWire_iff_acceptable :
    (Builder.ofWire registry m s).isOk = true ↔
      (m.sourceFiles ≠ [] ∨ m.packageGroups ≠ [] → packageFault? m.name = none) ∧
      (∀ f ∈ m.sourceFiles, f.Acceptable) ∧ (∀ g ∈ m.packageGroups, g.Acceptable) ∧
      (∀ r ∈ m.rules, r.Acceptable registry m.name) ∧ (m.targetNames registry).Nodup := by
  rw [Builder.isOk_ofWire_iff]
  simp only [InputFile.isOk_ofWire_iff, PackageGroup.isOk_ofWire_iff, Rule.isOk_ofWire_iff]
  constructor
  · rintro ⟨hf, hg, hr, howned, hnames⟩
    refine ⟨?_, fun f h => ?_, fun g h => ?_, fun r h => ?_, hnames⟩
    · rintro (h | h)
      · obtain ⟨f, h⟩ := List.exists_mem_of_ne_nil _ h
        exact (hf f h).1
      · obtain ⟨g, h⟩ := List.exists_mem_of_ne_nil _ h
        exact (hg g h).1
    · obtain ⟨-, hname, hvis, hlic⟩ := hf f h
      exact ⟨hname, hvis, hlic⟩
    · obtain ⟨-, hname, hincl⟩ := hg g h
      exact ⟨hname, hincl⟩
    · exact ⟨howned r h, (hr r h).2⟩
  · rintro ⟨hpackage, hf, hg, hr, hnames⟩
    refine ⟨fun f h => ?_, fun g h => ?_, fun r h => ?_, fun r h => ?_, hnames⟩
    · exact ⟨hpackage (.inl (List.ne_nil_of_mem h)), (hf f h).name, (hf f h).visibility,
        (hf f h).license⟩
    · exact ⟨hpackage (.inr (List.ne_nil_of_mem h)), (hg g h).name, (hg g h).included⟩
    · obtain ⟨label, hl, -⟩ := (hr r h).name
      exact ⟨Outcome.isOk_iff.2 ⟨label, hl⟩, (hr r h).attributes⟩
    · exact (hr r h).toOwned

/-- A message decodes exactly if it is acceptable.

**Proof sketch.** Decoding is a setting followed by adding all targets (`assemble`). The first
succeeds if the workspace answers and the defaults are in order; the second if every target is read
and there is room for all of them, which `vacant_iff` says of the message. -/
theorem Package.exists_ofWire_iff (registry : Registry) (w : Workspace) (m : Wire.Package) :
    (∃ d, ((Package.ofWire registry m).inWorkspace w).2 = .ok d) ↔ m.Acceptable registry w := by
  have hsteps : (∃ d, ((Package.ofWire registry m).inWorkspace w).2 = .ok d) ↔
      ∃ s, (Setting.ofWire m).outcome w = .ok s ∧ (Builder.ofWire registry m s).isOk = true := by
    show (∃ d, (Package.ofWire registry m).outcome w = .ok d) ↔ _
    simp only [Package.outcome_eq_ok_iff, outcome_assemble_eq_ok_iff, Outcome.isOk_iff]
    constructor
    · rintro ⟨d, b, ⟨s, hs, hb, -⟩, -⟩
      exact ⟨s, hs, b, hb⟩
    · rintro ⟨s, hs, b, hb⟩
      exact ⟨⟨b.build, .ofWire s.buildFile m.events⟩, b, ⟨s, hs, hb, rfl⟩, rfl⟩
  simp only [hsteps, Builder.isOk_ofWire_iff_acceptable, exists_and_right, ← Outcome.isOk_iff,
    Setting.isOk_outcome_iff, Defaults.isOk_ofWire_iff]
  constructor
  · rintro ⟨⟨hb, ⟨hv, hl, hd⟩, hs⟩, hp, hf, hg, hr, hn⟩
    exact ⟨hb, hv, hl, hd, hs, hp, hf, hg, hr, hn⟩
  · rintro ⟨hb, hv, hl, hd, hs, hp, hf, hg, hr, hn⟩
    exact ⟨⟨hb, ⟨hv, hl, hd⟩, hs⟩, hp, hf, hg, hr, hn⟩

end BuildPackage
