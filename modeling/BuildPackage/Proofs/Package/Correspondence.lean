import BuildPackage.Proofs.Package.Assembly

set_option relaxedAutoImplicit false
set_option autoImplicit false

/-!
# Packages and their messages

A decoded package says what its message says: every target, every included build file and every
attribute of the message is there once, in its place, and nothing else is.

## Main definitions

* `BuildPackage.Package.Renders` — a package that comes from a message.

## Main results

* `BuildPackage.Builder.ofTargets_renders` — the package of the targets that are read.
* `BuildPackage.Package.renders_message` — a package that is decoded renders its message.
-/

namespace BuildPackage

variable {registry : Registry} {w : Workspace} {m : Wire.Package}

/-- A package that comes from a message, in a workspace. -/
structure Package.Renders (registry : Registry) (w : Workspace) (m : Wire.Package) (p : Package) :
    Prop where
  /-- The name is that of the message. -/
  name : p.name = m.name
  /-- The build file is the one that the workspace knows. -/
  buildFile : w.buildFile? m.name = some p.buildFile
  /-- The input files come from the source files, one by one. -/
  inputFiles : List.Forall₂ (fun f x => x.Renders m.name p.buildFile f) m.sourceFiles p.inputFiles
  /-- The package groups come from the groups, one by one. -/
  packageGroups :
    List.Forall₂ (fun g x => x.Renders m.name p.buildFile g) m.packageGroups p.packageGroups
  /-- The rules come from the rules, one by one. -/
  rules : List.Forall₂ (fun r x => x.Renders registry p.buildFile r) m.rules p.rules
  /-- The included build files come from the labels, one by one. -/
  subincludes : List.Forall₂ (fun text x => x.Renders w text) m.subincludes p.subincludes
  /-- The package contains errors if the message says so. -/
  containsErrors : p.containsErrors = m.containsErrors.getD false

/-- The package of the targets that are read renders the message.

**Proof sketch.** The builder has the targets in the order in which they were read, kind by kind,
and each of them renders the part of the message that it was read from. -/
lemma Builder.ofTargets_renders {s : Setting} {files : List InputFile}
    {groups : List PackageGroup} {rules : List Rule} (hs : (Setting.ofWire m).outcome w = .ok s)
    (hf : m.sourceFiles.mapM (InputFile.ofWire m.name s.buildFile) = .ok files)
    (hg : m.packageGroups.mapM (PackageGroup.ofWire m.name s.buildFile) = .ok groups)
    (hr : m.rules.mapM (Rule.ofWire registry s.buildFile) = .ok rules) :
    (ofTargets m s files groups rules).build.Renders registry w m := by
  obtain ⟨hbuild, -, hsub⟩ := Setting.outcome_eq_ok_iff.1 hs
  have hfiles := (Outcome.mapM_eq_ok_iff.1 hf).imp fun _ _ h => InputFile.renders_of_ofWire h
  have hgroups := (Outcome.mapM_eq_ok_iff.1 hg).imp fun _ _ h => PackageGroup.renders_of_ofWire h
  have hrules := (Outcome.mapM_eq_ok_iff.1 hr).imp fun _ _ h => Rule.renders_of_ofWire h
  exact ⟨rfl, hbuild, hfiles, hgroups, hrules, hsub, rfl⟩

/-- A package that is decoded renders its message: nothing is lost, doubled or moved. -/
theorem Package.renders_message {d : Decoded Package}
    (h : ((Package.ofWire registry m).inWorkspace w).2 = .ok d) :
    d.package.Renders registry w m := by
  obtain ⟨b, hb, hd⟩ := Package.outcome_eq_ok_iff.1 h
  obtain ⟨s, hs, hof, -⟩ := outcome_assemble_eq_ok_iff.1 hb
  obtain ⟨files, groups, rules, hf, hg, hr, -, rfl⟩ := Builder.ofWire_eq_ok_iff.1 hof
  rw [← hd]
  exact Builder.ofTargets_renders hs hf hg hr

/-- A rule that gives an attribute twice, the second time as a dictionary with a key that occurs
twice. -/
theorem Package.renders_message_of_dictionary :
    let attributes : List Wire.Attribute := [
      { name := "env", discriminator := 10 },
      { name := "env", discriminator := 10, stringDict := [⟨"k", "a"⟩, ⟨"k", "b"⟩] }]
    let m : Wire.Package := {
      name := "app"
      sourceFiles := [{ name := "//app:main.c" }]
      rules := [{ name := "//app:main", ruleClass := "binary", attributes }] }
    let registry : Registry :=
      .register .empty ⟨"binary", .ofList [("env", AttributeType.stringDict)]⟩
    let w : Workspace := ⟨fun package => some ⟨package ++ "/BUILD"⟩, fun _ => some false⟩
    ∃ d, ((Package.ofWire registry m).inWorkspace w).2 = .ok d ∧
      d.package.Renders registry w m := by
  intro attributes m registry w
  have hok : ((Package.ofWire registry m).inWorkspace w).2.isOk = true := by decide +kernel
  obtain ⟨d, hd⟩ := Outcome.isOk_iff.1 hok
  exact ⟨d, hd, Package.renders_message hd⟩

end BuildPackage
