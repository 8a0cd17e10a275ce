import BuildPackage.Proofs.Builder.Addition
import BuildPackage.Proofs.Package.Inquiry
import BuildPackage.Proofs.Target.Reading

set_option relaxedAutoImplicit false
set_option autoImplicit false

/-!
# Assembling packages

The steps that turn a message into a finished builder, each by what it succeeds with. The setting is
the only step that asks something; the targets are read and added in one pass, which comes to the
same as reading all of them first and adding them afterwards.

## Main definitions

* `BuildPackage.Subinclude.Renders` — an included build file that comes from a label of a message.
* `BuildPackage.Builder.ofTargets` — the builder of a message with all its targets.
* `BuildPackage.assemble` — what the two ways of decoding have in common.

## Main results

* `BuildPackage.Setting.outcome_eq_ok_iff`, `BuildPackage.Setting.isOk_outcome_iff`
* `BuildPackage.Builder.ofWire_eq_ok_iff` — what adding all targets of a message succeeds with.
* `BuildPackage.Package.outcome_eq_ok_iff` — what decoding a package succeeds with.
-/

namespace BuildPackage

variable {w : Workspace} {m : Wire.Package}

/-! ## Settings -/

namespace Defaults

/-- The default visibility of a message, whose labels count only if it is said to be set. -/
def readVisibility (m : Wire.Package) : Except DecodeError Visibility :=
  if m.defaultVisibilitySet = some true then Visibility.ofLabels <$> readLabels m.defaultVisibility
  else pure .nobody

/-- The default license of a message. -/
def readLicense (m : Wire.Package) : Except DecodeError License :=
  (m.defaultLicense.map License.ofWire).getD (.ok .noLicense)

/-- Defaults are read in three steps. -/
lemma ofWire_eq (m : Wire.Package) :
    ofWire m = readVisibility m >>= fun visibility => readLicense m >>= fun license =>
      readDistributions m.defaultDistributions >>= fun distributions => pure {
        visibility, license, distributions
        visibilitySet := m.defaultVisibilitySet.getD false
        obsolete := m.defaultObsolete.getD false
        testonly := m.defaultTestonly.getD false
        deprecation := m.defaultDeprecation } := by
  by_cases hset : m.defaultVisibilitySet = some true
  · simp only [ofWire, readVisibility, readLicense, if_pos hset]
  · simp only [ofWire, readVisibility, readLicense, if_neg hset]

/-- What the defaults of a message consist of. -/
lemma ofWire_eq_ok_iff {d : Defaults} :
    ofWire m = .ok d ↔ readVisibility m = .ok d.visibility ∧ readLicense m = .ok d.license ∧
      readDistributions m.defaultDistributions = .ok d.distributions ∧
        d.visibilitySet = m.defaultVisibilitySet.getD false ∧
        d.obsolete = m.defaultObsolete.getD false ∧ d.testonly = m.defaultTestonly.getD false ∧
        d.deprecation = m.defaultDeprecation := by
  simp only [ofWire_eq, Outcome.bind_eq_ok_iff, Outcome.pure_eq_ok_iff]
  constructor
  · rintro ⟨visibility, hv, license, hl, distributions, hd, rfl⟩
    exact ⟨hv, hl, hd, rfl, rfl, rfl, rfl⟩
  · obtain ⟨visibility, visibilitySet, obsolete, testonly, deprecation, license, distributions⟩ := d
    rintro ⟨hv, hl, hd, rfl, rfl, rfl, rfl⟩
    exact ⟨visibility, hv, license, hl, distributions, hd, rfl⟩

lemma isOk_readVisibility_iff :
    (readVisibility m).isOk = true ↔ (m.defaultVisibilitySet = some true →
      ∀ text ∈ m.defaultVisibility, (Label.parse text).isOk = true) := by
  unfold readVisibility
  split_ifs with hset
  · rw [Outcome.isOk_map, isOk_readLabels_iff, forall_prop_of_true hset]
  · exact iff_of_true rfl fun h => absurd h hset

lemma isOk_readLicense_iff :
    (readLicense m).isOk = true ↔
      ∀ license ∈ m.defaultLicense, (License.ofWire license).isOk = true := by
  unfold readLicense
  cases m.defaultLicense with
  | none => exact iff_of_true rfl (by simp)
  | some license => simp

/-- The defaults are read exactly if the labels of a visibility that is said to be set, the license
and the distributions are in order. -/
lemma isOk_ofWire_iff :
    (ofWire m).isOk = true ↔
      (m.defaultVisibilitySet = some true →
        ∀ text ∈ m.defaultVisibility, (Label.parse text).isOk = true) ∧
      (∀ license ∈ m.defaultLicense, (License.ofWire license).isOk = true) ∧
        ∀ token ∈ m.defaultDistributions, (Distribution.ofToken? token).isSome = true := by
  rw [ofWire_eq, ← isOk_readVisibility_iff, ← isOk_readLicense_iff, ← isOk_readDistributions_iff]
  exact Outcome.isOk_bind_iff fun visibility => Outcome.isOk_bind_iff fun license => by
    rw [Outcome.isOk_bind_pure]

end Defaults

/-- An included build file that comes from a label of a message: it lies next to the build file of
the label's package. -/
structure Subinclude.Renders (w : Workspace) (text : String) (x : Subinclude) : Prop where
  /-- The label is the one given. -/
  label : Label.parse text = .ok x.label
  /-- The path is next to the build file that the workspace knows. -/
  path : ∃ buildFile, w.buildFile? x.label.package = some buildFile ∧
    x.path = buildFile.parent.join x.label.name

/-- A label is included exactly as the build files that render it. -/
lemma Subinclude.outcome_eq_ok_iff {text : String} {x : Subinclude} :
    (Subinclude.ofWire text).outcome w = .ok x ↔ x.Renders w text := by
  simp only [Subinclude.ofWire, Inquiry.outcome_bind, Inquiry.outcome_ofExcept,
    Inquiry.outcome_pure, Outcome.bind_eq_ok_iff, readLabel_eq_ok_iff,
    Inquiry.outcome_buildFile_eq_ok_iff, Except.ok.injEq]
  constructor
  · rintro ⟨label, hl, buildFile, hb, rfl⟩
    exact ⟨hl, buildFile, hb, rfl⟩
  · rintro ⟨hl, buildFile, hb, hp⟩
    refine ⟨x.label, hl, buildFile, hb, ?_⟩
    rw [← hp]

/-- What the setting of a message consists of. -/
theorem Setting.outcome_eq_ok_iff {s : Setting} :
    (Setting.ofWire m).outcome w = .ok s ↔
      w.buildFile? m.name = some s.buildFile ∧ Defaults.ofWire m = .ok s.defaults ∧
        List.Forall₂ (fun text x => x.Renders w text) m.subincludes s.subincludes := by
  simp only [Setting.ofWire, Inquiry.outcome_bind, Inquiry.outcome_ofExcept, Inquiry.outcome_pure,
    Inquiry.outcome_mapM, Outcome.bind_eq_ok_iff, Inquiry.outcome_buildFile_eq_ok_iff,
    Outcome.mapM_eq_ok_iff, Subinclude.outcome_eq_ok_iff, Except.ok.injEq]
  constructor
  · rintro ⟨buildFile, hb, defaults, hd, subincludes, hs, rfl⟩
    exact ⟨hb, hd, hs⟩
  · rintro ⟨hb, hd, hs⟩
    exact ⟨s.buildFile, hb, s.defaults, hd, s.subincludes, hs, rfl⟩

/-- A message has a setting exactly if the workspace knows its build file, its defaults are in
order, and the workspace knows a build file for each label that is included. -/
theorem Setting.isOk_outcome_iff :
    ((Setting.ofWire m).outcome w).isOk = true ↔
      (w.buildFile? m.name).isSome = true ∧ (Defaults.ofWire m).isOk = true ∧
        ∀ text ∈ m.subincludes, ∃ label, Label.parse text = .ok label ∧
          (w.buildFile? label.package).isSome = true := by
  have hsub : ∀ text, (∃ x : Subinclude, x.Renders w text) ↔
      ∃ label, Label.parse text = .ok label ∧ (w.buildFile? label.package).isSome = true := by
    intro text
    constructor
    · rintro ⟨x, hl, buildFile, hb, -⟩
      exact ⟨x.label, hl, Option.isSome_iff_exists.2 ⟨buildFile, hb⟩⟩
    · rintro ⟨label, hl, hb⟩
      obtain ⟨buildFile, hb⟩ := Option.isSome_iff_exists.1 hb
      exact ⟨⟨label, buildFile.parent.join label.name⟩, hl, buildFile, hb, rfl⟩
  simp only [← hsub, ← Outcome.exists_forall₂_iff]
  simp only [Outcome.isOk_iff, Setting.outcome_eq_ok_iff, Option.isSome_iff_exists]
  constructor
  · rintro ⟨s, hb, hd, hs⟩
    exact ⟨⟨_, hb⟩, ⟨_, hd⟩, _, hs⟩
  · rintro ⟨⟨buildFile, hb⟩, ⟨defaults, hd⟩, subincludes, hs⟩
    exact ⟨⟨buildFile, defaults, subincludes⟩, hb, hd, hs⟩

/-! ## Targets -/

namespace Builder

variable {registry : Registry} {b b' : Builder} {s : Setting}

/-- Reading and adding targets in one pass comes to the same as reading all of them first and adding
them afterwards.

**Proof sketch.** Induction on the targets. Adding one keeps the package name and the build file,
which is all that reading the next one takes from the builder. -/
theorem foldlM_addWire_eq_ok_iff {ts : List Wire.Target} :
    ts.foldlM (addWire registry) b = .ok b' ↔
      ∃ xs, ts.mapM (Target.ofWire registry b.name b.buildFile) = .ok xs ∧
        b.addAll xs = .ok b' := by
  induction ts generalizing b with
  | nil => simp [addAll]
  | cons t ts ih =>
    simp only [List.foldlM_cons, List.mapM_cons, addWire, Outcome.bind_eq_ok_iff,
      Outcome.pure_eq_ok_iff, ih]
    constructor
    · rintro ⟨c, ⟨x, hx, hc⟩, xs, hxs, hb'⟩
      obtain ⟨-, rfl⟩ := add_eq_ok_iff.1 hc
      rw [enter_name, enter_buildFile] at hxs
      refine ⟨x :: xs, ⟨x, hx, xs, hxs, rfl⟩, ?_⟩
      rw [addAll, List.foldlM_cons, hc]
      exact hb'
    · rintro ⟨_, ⟨x, hx, xs, hxs, rfl⟩, hb'⟩
      rw [addAll, List.foldlM_cons, Outcome.bind_eq_ok_iff] at hb'
      obtain ⟨c, hc, hb'⟩ := hb'
      obtain ⟨-, rfl⟩ := add_eq_ok_iff.1 hc
      refine ⟨b.enter x, ⟨x, hx, hc⟩, xs, ?_, hb'⟩
      rwa [enter_name, enter_buildFile]

end Builder

namespace Target

/-- The targets of some input files, package groups and rules, in this order. -/
def ofKinds (files : List InputFile) (groups : List PackageGroup) (rules : List Rule) :
    List Target :=
  files.map inputFile ++ groups.map packageGroup ++ rules.map rule

/-- The targets of a message are read kind by kind. -/
lemma mapM_ofWire_eq_ok_iff {registry : Registry} {package : String} {buildFile : Path}
    {ts : List Target} :
    m.targets.mapM (Target.ofWire registry package buildFile) = .ok ts ↔
      ∃ files groups rules, ofKinds files groups rules = ts ∧
        m.sourceFiles.mapM (InputFile.ofWire package buildFile) = .ok files ∧
        m.packageGroups.mapM (PackageGroup.ofWire package buildFile) = .ok groups ∧
        m.rules.mapM (Rule.ofWire registry buildFile) = .ok rules := by
  have hmap : ∀ {α β : Type} (read : α → Except DecodeError β) (g : β → Target) (xs : List α),
      (xs.mapM fun x => g <$> read x) = List.map g <$> xs.mapM read := by
    intro α β read g xs
    induction xs with
    | nil => rfl
    | cons x xs ih => simp [ih]
  have hf : (Target.ofWire registry package buildFile ∘ .sourceFile) =
      fun f => inputFile <$> InputFile.ofWire package buildFile f := rfl
  have hg : (Target.ofWire registry package buildFile ∘ .packageGroup) =
      fun g => packageGroup <$> PackageGroup.ofWire package buildFile g := rfl
  have hr : (Target.ofWire registry package buildFile ∘ .rule) =
      fun r => rule <$> Rule.ofWire registry buildFile r := rfl
  simp only [Wire.Package.targets, List.mapM_append, List.mapM_map, hf, hg, hr, hmap,
    Outcome.bind_eq_ok_iff, Outcome.map_eq_ok_iff, Outcome.pure_eq_ok_iff]
  constructor
  · rintro ⟨_, ⟨_, ⟨files, hf, rfl⟩, _, ⟨groups, hg, rfl⟩, rfl⟩, _, ⟨rules, hr, rfl⟩, rfl⟩
    exact ⟨files, groups, rules, rfl, hf, hg, hr⟩
  · rintro ⟨files, groups, rules, rfl, hf, hg, hr⟩
    exact ⟨_, ⟨_, ⟨files, hf, rfl⟩, _, ⟨groups, hg, rfl⟩, rfl⟩, _, ⟨rules, hr, rfl⟩, rfl⟩

end Target

/-- The targets of two messages are related, if they are so kind by kind. -/
lemma Wire.Package.forall₂_targets {R : Wire.Target → Wire.Target → Prop} {m m' : Wire.Package}
    (hfiles : List.Forall₂ (fun f f' => R (.sourceFile f) (.sourceFile f'))
      m.sourceFiles m'.sourceFiles)
    (hgroups : List.Forall₂ (fun g g' => R (.packageGroup g) (.packageGroup g'))
      m.packageGroups m'.packageGroups)
    (hrules : List.Forall₂ (fun r r' => R (.rule r) (.rule r')) m.rules m'.rules) :
    List.Forall₂ R m.targets m'.targets := by
  refine List.rel_append (List.rel_append ?_ ?_) ?_ <;>
    rw [List.forall₂_map_left_iff, List.forall₂_map_right_iff]
  · exact hfiles
  · exact hgroups
  · exact hrules

namespace Builder

variable {registry : Registry} {b : Builder} {s : Setting}

/-- Two messages whose targets are read alike are assembled alike, if they agree on the name, on the
make variables and on errors in the build file. -/
lemma ofWire_congr {m' : Wire.Package} (hname : m'.name = m.name)
    (hmake : m'.makeVariables = m.makeVariables) (herrors : m'.containsErrors = m.containsErrors)
    (htargets : List.Forall₂ (fun t t' => ∀ package buildFile,
      Target.ofWire registry package buildFile t = Target.ofWire registry package buildFile t')
      m.targets m'.targets) (s : Setting) :
    Builder.ofWire registry m' s = Builder.ofWire registry m s := by
  have hadd : List.Forall₂ (fun t t' => ∀ b : Builder, addWire registry b t = addWire registry b t')
      m.targets m'.targets :=
    htargets.imp fun t t' h b => by rw [addWire, addWire, h]
  simp only [ofWire, ofSetting, hname, hmake, herrors, Outcome.foldlM_congr hadd]

/-- The builder of a message in its setting with some targets. -/
def ofTargets (m : Wire.Package) (s : Setting) (files : List InputFile)
    (groups : List PackageGroup) (rules : List Rule) : Builder :=
  { ofSetting m s with
    inputFiles := files.toArray
    packageGroups := groups.toArray
    rules := rules.toArray
    outputFiles := (rules.flatMap Rule.outputFiles).toArray
    names := .ofList (((Target.ofKinds files groups rules).flatMap Target.labels).map Label.name) }

lemma foldl_enter_ofKinds (m : Wire.Package) (s : Setting) (files : List InputFile)
    (groups : List PackageGroup) (rules : List Rule) :
    (Target.ofKinds files groups rules).foldl enter (ofSetting m s) =
      ofTargets m s files groups rules := by
  have hnone : ∀ {α β : Type} (xs : List α), (xs.flatMap fun _ => ([] : List β)) = [] :=
    fun _ => List.flatMap_eq_nil_iff.2 fun _ _ => rfl
  rw [foldl_enter_eq]
  simp [ofTargets, ofSetting, Target.ofKinds, List.flatMap_map, Target.inputFiles,
    Target.packageGroups, Target.rules, hnone, Std.ExtTreeSet.insertMany_append,
    Std.ExtTreeSet.ofList_eq_insertMany_empty]

/-- All targets of a message are added exactly if each of them is read and there is room for all
their labels in an empty package. -/
theorem ofWire_eq_ok_iff :
    Builder.ofWire registry m s = .ok b ↔
      ∃ files groups rules,
        m.sourceFiles.mapM (InputFile.ofWire m.name s.buildFile) = .ok files ∧
        m.packageGroups.mapM (PackageGroup.ofWire m.name s.buildFile) = .ok groups ∧
        m.rules.mapM (Rule.ofWire registry s.buildFile) = .ok rules ∧
        Vacant m.name ∅ ((Target.ofKinds files groups rules).flatMap Target.labels) ∧
        ofTargets m s files groups rules = b := by
  have hname : (ofSetting m s).name = m.name := rfl
  have hfile : (ofSetting m s).buildFile = s.buildFile := rfl
  have hnames : (ofSetting m s).names = ∅ := rfl
  simp only [Builder.ofWire, foldlM_addWire_eq_ok_iff, Target.mapM_ofWire_eq_ok_iff,
    addAll_eq_ok_iff, hname, hfile, hnames]
  constructor
  · rintro ⟨_, ⟨files, groups, rules, rfl, hf, hg, hr⟩, hv, rfl⟩
    exact ⟨files, groups, rules, hf, hg, hr, hv, (foldl_enter_ofKinds ..).symm⟩
  · rintro ⟨files, groups, rules, hf, hg, hr, hv, rfl⟩
    exact ⟨_, ⟨files, groups, rules, rfl, hf, hg, hr⟩, hv, foldl_enter_ofKinds ..⟩

end Builder

/-! ## Both ways of decoding -/

/-- The builder of a message with the events: what the two ways of decoding have in common. -/
def assemble (registry : Registry) (m : Wire.Package) : Inquiry (Builder × EventLog) := do
  let setting ← Setting.ofWire m
  let builder ← Inquiry.ofExcept (Builder.ofWire registry m setting)
  return (builder, .ofWire setting.buildFile m.events)

variable {registry : Registry}

/-- Assembling succeeds in a setting with the builder of all targets. -/
theorem outcome_assemble_eq_ok_iff {b : Builder} {log : EventLog} :
    (assemble registry m).outcome w = .ok (b, log) ↔
      ∃ s, (Setting.ofWire m).outcome w = .ok s ∧ Builder.ofWire registry m s = .ok b ∧
        .ofWire s.buildFile m.events = log := by
  simp only [assemble, Inquiry.outcome_bind, Inquiry.outcome_ofExcept, Inquiry.outcome_pure,
    Outcome.bind_eq_ok_iff, Except.ok.injEq, Prod.mk.injEq]
  constructor
  · rintro ⟨s, hs, b, hb, rfl, rfl⟩
    exact ⟨s, hs, hb, rfl⟩
  · rintro ⟨s, hs, hb, rfl⟩
    exact ⟨s, hs, b, hb, rfl, rfl⟩

lemma Package.ofWire_eq (registry : Registry) (m : Wire.Package) :
    Package.ofWire registry m =
      assemble registry m >>= fun (b, log) => pure ⟨b.build, log⟩ := by
  simp [Package.ofWire, assemble]

/-- The finished package of a builder with its crossings and all events. -/
def Builder.finishChecked (b : Builder) (log : EventLog) : Inquiry (Decoded CheckedPackage) := do
  let (log, result) ← b.buildChecked log
  return ⟨← Inquiry.ofExcept result, log⟩

lemma CheckedPackage.ofWire_eq (registry : Registry) (m : Wire.Package) :
    CheckedPackage.ofWire registry m =
      assemble registry m >>= fun (b, log) => b.finishChecked log := by
  simp [CheckedPackage.ofWire, assemble, Builder.finishChecked]

/-- Messages that are assembled alike are decoded alike in both ways. -/
lemma inWorkspace_eq_of_assemble_eq {m' : Wire.Package}
    (h : assemble registry m' = assemble registry m) :
    (Package.ofWire registry m').inWorkspace w = (Package.ofWire registry m).inWorkspace w ∧
      (CheckedPackage.ofWire registry m').inWorkspace w =
        (CheckedPackage.ofWire registry m).inWorkspace w := by
  rw [Package.ofWire_eq, Package.ofWire_eq, CheckedPackage.ofWire_eq, CheckedPackage.ofWire_eq, h]
  exact ⟨rfl, rfl⟩

/-- A package is decoded exactly as what finishing the builder of the message gives. -/
theorem Package.outcome_eq_ok_iff {d : Decoded Package} :
    (Package.ofWire registry m).outcome w = .ok d ↔
      ∃ b, (assemble registry m).outcome w = .ok (b, d.events) ∧ b.build = d.package := by
  rw [Package.ofWire_eq, Inquiry.outcome_bind, Outcome.bind_eq_ok_iff]
  constructor
  · rintro ⟨⟨b, log⟩, hb, h⟩
    obtain rfl := Except.ok.inj h
    exact ⟨b, hb, rfl⟩
  · rintro ⟨b, hb, hp⟩
    refine ⟨(b, d.events), hb, ?_⟩
    simp only [hp]
    rfl

end BuildPackage
