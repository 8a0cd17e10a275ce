import BuildPackage.Proofs.Package.Boundary
import BuildPackage.Proofs.Package.FirstFailure

set_option relaxedAutoImplicit false
set_option autoImplicit false

/-!
# Labels of source files and groups

A source file and a package group bring a label of their own, of which only the name is kept. They
belong to the package of the message whatever package the label names, so two messages that differ
in these packages alone are decoded alike, collisions of names included. Only a rule can be found to
lie in another package, by its own label or by one of its outputs.

The policy of an input file is all or nothing: a visibility brings a license with it and a license a
visibility.

## Main definitions

* `BuildPackage.Wire.Package.Rehomed` — messages with files and groups of the same names.
* `BuildPackage.DecodeError.IsOutside` — the error about a target in another package.
* `BuildPackage.InputFile.PairsPolicy` — a policy that is there as a whole or not at all.

## Main results

* `BuildPackage.assemble_rehomed` — only the names of files and groups count.
* `BuildPackage.Package.exists_rule_of_outside` — only a rule lies in another package.
* `BuildPackage.Package.rehomes_by_name` — what becomes of the labels of files and groups.
-/

namespace BuildPackage

open Outcome (FailsOnly)

/-! ## Messages with files and groups of the same names -/

namespace Wire

/-- Two texts that are labels of the same name. -/
def SameName (text text' : String) : Prop :=
  ∃ l l', Label.parse text = .ok l ∧ Label.parse text' = .ok l' ∧ l'.name = l.name

/-- A source file under a label of the same name. -/
structure SourceFile.Rehomed (f f' : SourceFile) : Prop where
  /-- Nothing but the label differs. -/
  rest : { f' with name := f.name } = f
  /-- The labels have the same name. -/
  name : SameName f.name f'.name

/-- A package group under a label of the same name. -/
structure PackageGroup.Rehomed (g g' : PackageGroup) : Prop where
  /-- Nothing but the label differs. -/
  rest : { g' with name := g.name } = g
  /-- The labels have the same name. -/
  name : SameName g.name g'.name

/-- A message whose source files and package groups have labels of the same names. -/
structure Package.Rehomed (m m' : Package) : Prop where
  /-- Nothing but source files and package groups differs. -/
  rest : { m' with sourceFiles := m.sourceFiles, packageGroups := m.packageGroups } = m
  /-- The source files have labels of the same names, one by one. -/
  sourceFiles : List.Forall₂ SourceFile.Rehomed m.sourceFiles m'.sourceFiles
  /-- The package groups have labels of the same names, one by one. -/
  packageGroups : List.Forall₂ PackageGroup.Rehomed m.packageGroups m'.packageGroups

end Wire

lemma readOwnLabel_of_sameName {text text' : String} (h : Wire.SameName text text')
    (package : String) : readOwnLabel package text' = readOwnLabel package text := by
  obtain ⟨l, l', hl, hl', hname⟩ := h
  simp only [readOwnLabel, readLabel, hl, hl']
  show (Label.ofParts package l'.name).mapError _ = (Label.ofParts package l.name).mapError _
  rw [hname]

lemma InputFile.ofWire_rehomed {f f' : Wire.SourceFile} (h : f.Rehomed f') (package : String)
    (buildFile : Path) :
    InputFile.ofWire package buildFile f' = InputFile.ofWire package buildFile f := by
  have hvisibility : f'.visibility = f.visibility := congrArg (·.visibility) h.rest
  have hlicense : f'.license = f.license := congrArg (·.license) h.rest
  have hlocation : f'.location = f.location := congrArg (·.location) h.rest
  simp only [ofWire, hvisibility, hlicense, hlocation, readOwnLabel_of_sameName h.name]

lemma PackageGroup.ofWire_rehomed {g g' : Wire.PackageGroup} (h : g.Rehomed g') (package : String)
    (buildFile : Path) :
    PackageGroup.ofWire package buildFile g' = PackageGroup.ofWire package buildFile g := by
  have hcontained : g'.contained = g.contained := congrArg (·.contained) h.rest
  have hincluded : g'.included = g.included := congrArg (·.included) h.rest
  have hlocation : g'.location = g.location := congrArg (·.location) h.rest
  simp only [ofWire, hcontained, hincluded, hlocation, readOwnLabel_of_sameName h.name]

variable {registry : Registry} {w : Workspace} {m m' : Wire.Package}

/-- Of the labels of source files and package groups only the names count.

**Proof sketch.** Each of these targets is read under the name of the message, whatever the package
of its label, and so every step of adding the targets is as before. -/
theorem assemble_rehomed (h : m.Rehomed m') : assemble registry m' = assemble registry m := by
  have hname : m'.name = m.name := congrArg (·.name) h.rest
  have hmake : m'.makeVariables = m.makeVariables := congrArg (·.makeVariables) h.rest
  have herrors : m'.containsErrors = m.containsErrors := congrArg (·.containsErrors) h.rest
  have hrules : m'.rules = m.rules := congrArg (·.rules) h.rest
  have hevents : m'.events = m.events := congrArg (·.events) h.rest
  have hheader : m'.header = m.header := by
    rw [← h.rest]
    rfl
  have hbuilder : ∀ s, Builder.ofWire registry m' s = Builder.ofWire registry m s := by
    refine Builder.ofWire_congr hname hmake herrors (Wire.Package.forall₂_targets ?_ ?_ ?_)
    · refine h.sourceFiles.imp fun f f' hf package buildFile => ?_
      simp only [Target.ofWire, InputFile.ofWire_rehomed hf]
    · refine h.packageGroups.imp fun g g' hg package buildFile => ?_
      simp only [Target.ofWire, PackageGroup.ofWire_rehomed hg]
    · rw [hrules]
      exact List.forall₂_same.2 fun r _ package buildFile => rfl
  simp only [assemble, Setting.ofWire_congr hheader, hbuilder, hevents]

/-! ## Targets in other packages -/

/-- Whether an error is about a target in another package. -/
def DecodeError.IsOutside : DecodeError → Prop
  | outsidePackage _ _ => True
  | _ => False

/-- A reading that never fails because of a target in another package. -/
abbrev NeverOutside {α : Type} (x : Except DecodeError α) : Prop := FailsOnly (¬ ·.IsOutside) x

lemma neverOutside_readLabel (text : String) : NeverOutside (readLabel text) :=
  .mapError (fun _ => id) _

lemma neverOutside_readLabels (texts : List String) : NeverOutside (readLabels texts) :=
  .mapError (fun _ => id) _

lemma neverOutside_license (l : Wire.License) : NeverOutside (License.ofWire l) :=
  .mapError (fun _ => id) _

lemma neverOutside_readOwnLabel (package text : String) :
    NeverOutside (readOwnLabel package text) :=
  (neverOutside_readLabel text).bind fun _ _ => .mapError (fun _ => id) _

lemma neverOutside_inputFile (package : String) (buildFile : Path) (f : Wire.SourceFile) :
    NeverOutside (InputFile.ofWire package buildFile f) := by
  refine (neverOutside_readOwnLabel package f.name).bind fun label _ => ?_
  dsimp only
  split_ifs
  · exact .ok _
  · exact (neverOutside_readLabels _).bind fun _ _ => (neverOutside_license _).bind fun _ _ => .ok _

lemma neverOutside_packageGroup (package : String) (buildFile : Path) (g : Wire.PackageGroup) :
    NeverOutside (PackageGroup.ofWire package buildFile g) :=
  (neverOutside_readOwnLabel package g.name).bind fun _ _ =>
    (neverOutside_readLabels _).bind fun _ _ => .ok _

/-- A source file or a package group can be added or is refused, but never because of its package.

**Proof sketch.** It is read under the name of the package, so its label lies there. All that can be
wrong with it then is that its name is taken. -/
lemma neverOutside_addWire {b : Builder} {t : Wire.Target} (h : ∀ r, t ≠ .rule r) :
    NeverOutside (b.addWire registry t) := by
  have hclaim : ∀ x : Target, x.label.package = b.name → x.outputs = [] →
      NeverOutside (b.add x) := by
    intro x hpackage houtputs
    have hlabel : NeverOutside (Builder.claim b.name x.kind b.names x.label) := by
      rw [Builder.claim, if_neg (not_not.2 hpackage)]
      split_ifs
      · rintro e ⟨⟩
        exact id
      · exact .ok _
    rw [Builder.add, Builder.claimAll, houtputs]
    exact (hlabel.bind fun _ _ => .ok _).bind fun _ _ => .ok _
  cases t with
  | sourceFile f =>
    refine ((neverOutside_inputFile b.name b.buildFile f).map _).bind fun x hx => ?_
    obtain ⟨file, hfile, rfl⟩ := Outcome.map_eq_ok_iff.1 hx
    exact hclaim _ (InputFile.renders_of_ofWire hfile).package_eq rfl
  | packageGroup g =>
    refine ((neverOutside_packageGroup b.name b.buildFile g).map _).bind fun x hx => ?_
    obtain ⟨group, hgroup, rfl⟩ := Outcome.map_eq_ok_iff.1 hx
    exact hclaim _ (PackageGroup.renders_of_ofWire hgroup).package_eq rfl
  | rule r => exact absurd rfl (h r)

lemma neverOutside_defaults : NeverOutside (Defaults.ofWire m) := by
  have hvisibility : NeverOutside (Defaults.readVisibility m) := by
    unfold Defaults.readVisibility
    split_ifs
    · exact (neverOutside_readLabels _).map _
    · exact .ok _
  have hlicense : NeverOutside (Defaults.readLicense m) := by
    unfold Defaults.readLicense
    cases m.defaultLicense with
    | none => exact .ok _
    | some license => exact neverOutside_license license
  have hdistributions : NeverOutside (readDistributions m.defaultDistributions) :=
    .mapError (fun _ => id) _
  rw [Defaults.ofWire_eq]
  exact hvisibility.bind fun _ _ => hlicense.bind fun _ _ => hdistributions.bind fun _ _ => .ok _

lemma neverOutside_buildFile (package : String) {missing : DecodeError} (h : ¬ missing.IsOutside) :
    NeverOutside ((Inquiry.buildFile package missing).outcome w) := by
  rw [Inquiry.outcome, Inquiry.inWorkspace_buildFile]
  cases w.buildFile? package with
  | none =>
    rintro e ⟨⟩
    exact h
  | some path => exact .ok _

/-- What a message says besides its targets is never about a target. -/
lemma neverOutside_setting : NeverOutside ((Setting.ofWire m).outcome w) := by
  have hsubinclude : ∀ text, NeverOutside ((Subinclude.ofWire text).outcome w) := by
    intro text
    simp only [Subinclude.ofWire, Inquiry.outcome_bind, Inquiry.outcome_ofExcept,
      Inquiry.outcome_pure]
    exact (neverOutside_readLabel text).bind fun _ _ =>
      (neverOutside_buildFile _ id).bind fun _ _ => .ok _
  simp only [Setting.ofWire, Inquiry.outcome_bind, Inquiry.outcome_ofExcept, Inquiry.outcome_pure,
    Inquiry.outcome_mapM]
  exact (neverOutside_buildFile _ id).bind fun _ _ => neverOutside_defaults.bind fun _ _ =>
    (FailsOnly.mapM hsubinclude _).bind fun _ _ => .ok _

namespace Package

/-- If decoding fails because of a target in another package, the target is a rule of the message,
with which decoding fails first. -/
theorem exists_rule_of_outside {e : DecodeError} (houtside : e.IsOutside)
    (h : (Package.ofWire registry m).outcome w = .error e) :
    ∃ k r, m.targets[k]? = some (.rule r) ∧ Blames registry w m k e := by
  cases hs : (Setting.ofWire m).outcome w with
  | error e' =>
    rw [outcome_ofWire, hs] at h
    obtain rfl := Except.error.inj h
    exact absurd houtside (neverOutside_setting _ hs)
  | ok s =>
    obtain ⟨k, hk⟩ := (outcome_eq_error_iff hs).1 h
    have ⟨_, b, t, _, _, ht, he⟩ := hk
    refine ⟨k, ?_⟩
    by_contra hnone
    refine neverOutside_addWire (fun r hr => hnone ⟨r, ?_, hk⟩) e he houtside
    rw [ht, hr]

end Package

/-- An error of the checked way is one of the plain way, unless the search was interrupted. -/
lemma CheckedPackage.plain_outcome_of_error {e : DecodeError} (he : e ≠ .interrupted)
    (h : (CheckedPackage.ofWire registry m).outcome w = .error e) :
    (Package.ofWire registry m).outcome w = .error e := by
  rw [CheckedPackage.ofWire_eq, Inquiry.outcome_bind, Outcome.bind_eq_error_iff] at h
  rw [Package.ofWire_eq, Inquiry.outcome_bind, Outcome.bind_eq_error_iff]
  obtain h | ⟨⟨b, log⟩, -, h⟩ := h
  · exact .inl h
  · rw [Inquiry.outcome, b.inWorkspace_finishChecked] at h
    dsimp only at h
    split_ifs at h
    exact absurd (Except.error.inj h).symm he

/-! ## Policies -/

/-- An input file with a policy that is there as a whole or not at all. -/
structure InputFile.PairsPolicy (f : Wire.SourceFile) (x : InputFile) : Prop where
  /-- There is a visibility exactly if there is a license. -/
  together : x.visibility.isSome = x.license.isSome
  /-- There is a visibility exactly if the message gives a label of one or a license. -/
  declared : x.visibility.isSome = true ↔ f.visibility ≠ [] ∨ f.license.isSome = true
  /-- With a license alone nobody is listed in the visibility. -/
  license_only : f.visibility = [] → f.license.isSome = true → x.visibility = some (.groups [])
  /-- With a visibility alone the license says nothing. -/
  visibility_only : f.visibility ≠ [] → f.license = none → x.license = some .noLicense

/-- The policy of an input file is there as a whole or not at all.

**Proof sketch.** If the message gives neither part, nothing is declared. Otherwise both parts are,
and the one that is missing is read from an empty list of labels or an empty license. -/
lemma InputFile.RendersPolicy.pairsPolicy {f : Wire.SourceFile} {x : InputFile}
    (h : x.RendersPolicy f) : x.PairsPolicy f := by
  by_cases hd : f.visibility ≠ [] ∨ f.license.isSome = true
  · obtain ⟨labels, license, hlabels, hlicense, hv, hl⟩ := h.declared hd
    refine ⟨by rw [hv, hl]; rfl, iff_of_true (by rw [hv]; rfl) hd, fun hnil _ => ?_,
      fun _ hnone => ?_⟩
    · rw [hnil, List.forall₂_nil_left_iff] at hlabels
      rw [hv, hlabels]
      rfl
    · rw [hnone] at hlicense
      obtain rfl : License.noLicense = license := Except.ok.inj hlicense
      exact hl
  · have hnone : f.visibility = [] ∧ f.license = none := by simpa using hd
    obtain ⟨hv, hl⟩ := h.undeclared hnone.1 hnone.2
    refine ⟨by rw [hv, hl]; rfl, iff_of_false (by rw [hv]; exact Bool.false_ne_true) hd,
      fun _ hsome => ?_, fun hne => absurd hnone.1 hne⟩
    exact absurd (.inr hsome) hd

/-- The input files of a builder are those of its message, each with the policy that it declares. -/
lemma forall₂_pairsPolicy_of_outcome_assemble {b : Builder} {log : EventLog}
    (h : (assemble registry m).outcome w = .ok (b, log)) :
    List.Forall₂ (fun f x => x.PairsPolicy f) m.sourceFiles b.build.inputFiles := by
  obtain ⟨s, -, hb, -⟩ := outcome_assemble_eq_ok_iff.1 h
  obtain ⟨files, groups, rules, hf, -, -, -, rfl⟩ := Builder.ofWire_eq_ok_iff.1 hb
  exact (Outcome.mapM_eq_ok_iff.1 hf).imp fun f x hx =>
    (InputFile.renders_of_ofWire hx).policy.pairsPolicy

/-! ## Both ways of decoding -/

/-- What becomes of the labels of source files and package groups, and of the policies of input
files. Messages whose files and groups have labels of the same names are decoded alike in both ways,
whether that succeeds or fails. A target that is found to lie in another package is a rule. Every
input file that is decoded has a visibility and a license or neither of them. -/
theorem Package.rehomes_by_name (registry : Registry) (w : Workspace) (m : Wire.Package) :
    (∀ m', m.Rehomed m' →
      (Package.ofWire registry m').inWorkspace w = (Package.ofWire registry m).inWorkspace w ∧
      (CheckedPackage.ofWire registry m').inWorkspace w =
        (CheckedPackage.ofWire registry m).inWorkspace w) ∧
    (∀ label package,
      (Package.ofWire registry m).outcome w = .error (.outsidePackage label package) ∨
      (CheckedPackage.ofWire registry m).outcome w = .error (.outsidePackage label package) →
        ∃ k r, m.targets[k]? = some (.rule r) ∧
          Blames registry w m k (.outsidePackage label package)) ∧
    (∀ d, (Package.ofWire registry m).outcome w = .ok d →
      List.Forall₂ (fun f x => x.PairsPolicy f) m.sourceFiles d.package.inputFiles) ∧
    ∀ c, (CheckedPackage.ofWire registry m).outcome w = .ok c →
      List.Forall₂ (fun f x => x.PairsPolicy f) m.sourceFiles c.package.package.inputFiles := by
  refine ⟨fun m' h => inWorkspace_eq_of_assemble_eq (assemble_rehomed h),
    fun label package h => ?_,
    forall_decoded_of_assembled
      (P := fun p => List.Forall₂ (fun f x => InputFile.PairsPolicy f x) m.sourceFiles p.inputFiles)
      (fun _ _ h => h) fun _ _ h => forall₂_pairsPolicy_of_outcome_assemble h⟩
  obtain h | h := h
  · exact exists_rule_of_outside trivial h
  · exact exists_rule_of_outside trivial
      (CheckedPackage.plain_outcome_of_error DecodeError.noConfusion h)

/-- A message with files and groups of its own package, and one in which they are labels of other
packages. A file that is called as one of them in the package of the message collides with it. With
a rule of another package decoding fails because of this rule. -/
theorem Package.rehomes_by_name_of_collision :
    let m : Wire.Package := {
      name := "app"
      sourceFiles := [
        { name := "//app:a.c", license := some {} },
        { name := "//app:b.c", visibility := ["//app:friends"] }, { name := "//app:c.c" }]
      packageGroups := [{ name := "//app:friends" }] }
    let abroad : Wire.Package := { m with
      sourceFiles := [
        { name := "//lib:a.c", license := some {} },
        { name := "//:b.c", visibility := ["//app:friends"] }, { name := "//c.c" }]
      packageGroups := [{ name := "//friends" }] }
    let colliding : Wire.Package :=
      { m with sourceFiles := m.sourceFiles ++ [{ name := "//lib:a.c" }] }
    let collidingAbroad : Wire.Package :=
      { abroad with sourceFiles := abroad.sourceFiles ++ [{ name := "//tools:a.c" }] }
    let strayed : Wire.Package :=
      { m with rules := [{ name := "//lib:gen", ruleClass := "genrule" }] }
    let registry : Registry := .register .empty ⟨"genrule", ∅⟩
    let w : Workspace :=
      ⟨fun package => if package = "app" then some ⟨"app/BUILD"⟩ else none, fun _ => some false⟩
    let gen : Label := ⟨"lib", "gen", by decide +kernel, by decide +kernel⟩
    m.Rehomed abroad ∧
    (CheckedPackage.ofWire registry abroad).inWorkspace w =
      (CheckedPackage.ofWire registry m).inWorkspace w ∧
    (Package.ofWire registry colliding).outcome w = .error (.nameTaken .inputFile "a.c" "app") ∧
    (Package.ofWire registry collidingAbroad).inWorkspace w =
      (Package.ofWire registry colliding).inWorkspace w ∧
    (∃ k r, strayed.targets[k]? = some (.rule r) ∧
      Blames registry w strayed k (.outsidePackage gen "app")) ∧
    ∃ d, (Package.ofWire registry m).outcome w = .ok d ∧
      List.Forall₂ (fun f x => x.PairsPolicy f) m.sourceFiles d.package.inputFiles := by
  intro m abroad colliding collidingAbroad strayed registry w gen
  have hgroups : List.Forall₂ Wire.PackageGroup.Rehomed m.packageGroups abroad.packageGroups :=
    .cons ⟨rfl, _, _, rfl, rfl, rfl⟩ .nil
  have hfiles : List.Forall₂ Wire.SourceFile.Rehomed m.sourceFiles abroad.sourceFiles :=
    .cons ⟨rfl, _, _, rfl, rfl, rfl⟩ (.cons ⟨rfl, _, _, rfl, rfl, rfl⟩
      (.cons ⟨rfl, _, _, rfl, rfl, rfl⟩ .nil))
  have hrehomed : m.Rehomed abroad := ⟨rfl, hfiles, hgroups⟩
  have hcolliding : colliding.Rehomed collidingAbroad :=
    ⟨rfl, List.rel_append hfiles (.cons ⟨rfl, _, _, rfl, rfl, rfl⟩ .nil), hgroups⟩
  have hfails : ∀ m' (e : DecodeError),
      (fun _ => ()) <$> (Package.ofWire registry m').outcome w = .error e →
        (Package.ofWire registry m').outcome w = .error e := fun _ _ => Outcome.map_eq_error_iff.1
  obtain ⟨d, hd⟩ := Outcome.isOk_iff.1
    (by decide +kernel : ((Package.ofWire registry m).outcome w).isOk = true)
  exact ⟨hrehomed, ((rehomes_by_name registry w m).1 abroad hrehomed).2,
    hfails _ _ (by decide +kernel),
    ((rehomes_by_name registry w colliding).1 collidingAbroad hcolliding).1,
    (rehomes_by_name registry w strayed).2.1 gen "app" (.inl (hfails _ _ (by decide +kernel))),
    d, hd, (rehomes_by_name registry w m).2.2.1 d hd⟩

end BuildPackage
