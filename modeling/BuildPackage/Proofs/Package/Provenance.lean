import BuildPackage.Proofs.Package.Assembly
import BuildPackage.Proofs.Target.Provenance

set_option relaxedAutoImplicit false
set_option autoImplicit false

/-!
# Packages without provenance

How the lists of a message were declared has no consequences. Two messages that differ in the
provenance of their lists alone are decoded with the same questions; either both fail with the same
error, or both give packages that are equal by comparison and have the same events. The proof is
that decoding commutes, step by step, with forgetting the provenance.

## Main definitions

* `BuildPackage.Wire.Package.bare` — a message without the provenance of its lists.
* `BuildPackage.Builder.bare`, `BuildPackage.Package.bare` — what is decoded, without it.
* `BuildPackage.Package.Alike` — packages that nobody can tell apart who does not look at it.

## Main results

* `BuildPackage.Builder.add_bare` — a target is added or refused whatever its provenance.
* `BuildPackage.Package.ofWire_bare`, `BuildPackage.CheckedPackage.ofWire_bare` — decoding commutes
  with forgetting.
* `BuildPackage.Package.agree_of_bare_eq` — messages that differ in provenance alone.
-/

namespace BuildPackage

/-! ## Builders -/

/-- A message without the provenance of its lists. -/
def Wire.Package.bare (m : Wire.Package) : Wire.Package :=
  { m with rules := m.rules.map Wire.Rule.bare }

lemma Wire.Package.targets_bare (m : Wire.Package) :
    m.bare.targets = m.targets.map Wire.Target.bare := by
  simp [targets, bare, Wire.Target.bare, Function.comp_def]

namespace Builder

/-- A builder without the provenance of its lists. -/
def bare (b : Builder) : Builder := { b with rules := b.rules.map Rule.bare }

variable (b : Builder)

/-- The names that a target takes do not depend on its provenance. -/
lemma claimAll_bare (package : String) (names : NameTable) (t : Target) :
    claimAll package names t.bare = claimAll package names t := by
  simp only [claimAll, Target.kind_bare, Target.label_bare, Target.outputs_bare]

lemma record_bare (t : Target) : b.bare.record t.bare = (b.record t).bare := by
  cases t with
  | inputFile f => rfl
  | packageGroup g => rfl
  | rule r => simp [record, bare, Target.bare, Rule.outputFiles, Rule.bare]

/-- Whether a target is added does not depend on its provenance, nor on that of the targets before
it. -/
theorem add_bare (t : Target) : b.bare.add t.bare = bare <$> b.add t := by
  simp only [add, record_bare, map_bind]
  have hnames : claimAll b.bare.name b.bare.names t.bare = claimAll b.name b.names t :=
    claimAll_bare b.name b.names t
  rw [hnames]
  rfl

lemma addWire_bare (registry : Registry) (t : Wire.Target) :
    addWire registry b.bare t.bare = bare <$> addWire registry b t := by
  have hread : Target.ofWire registry b.bare.name b.bare.buildFile t.bare =
      Target.bare <$> Target.ofWire registry b.name b.buildFile t := Target.ofWire_bare ..
  simp only [addWire, hread, bind_map_left, add_bare, map_bind]

/-- The targets of a message without provenance are added as the targets of the message. -/
theorem ofWire_bare (registry : Registry) (m : Wire.Package) (s : Setting) :
    ofWire registry m.bare s = bare <$> ofWire registry m s := by
  have hsetting : ofSetting m.bare s = (ofSetting m s).bare := by
    simp [ofSetting, bare, Wire.Package.bare]
  rw [ofWire, ofWire, hsetting, Wire.Package.targets_bare]
  exact Outcome.foldlM_map_map (addWire_bare · registry) _ _

end Builder

lemma assemble_bare (registry : Registry) (m : Wire.Package) :
    assemble registry m.bare = Prod.map Builder.bare id <$> assemble registry m := by
  have hsetting : Setting.ofWire m.bare = Setting.ofWire m := rfl
  simp only [assemble, hsetting, Builder.ofWire_bare, Inquiry.ofExcept_map, bind_map_left, map_bind,
    map_pure]
  rfl

/-! ## Packages -/

/-- A package without the provenance of its lists. -/
def Package.bare (p : Package) : Package := { p with rules := p.rules.map Rule.bare }

/-- A package with its crossings, without the provenance of its lists. -/
def CheckedPackage.bare (p : CheckedPackage) : CheckedPackage :=
  { p with package := p.package.bare }

/-- Applies a function to the package and keeps the events. -/
def Decoded.map {α β : Type} (f : α → β) (d : Decoded α) : Decoded β := ⟨f d.package, d.events⟩

lemma Builder.build_bare (b : Builder) : b.bare.build = b.build.bare := by
  simp [build, bare, Package.bare]

/-- Decoding without provenance comes to the package without provenance, after the same
questions. -/
theorem Package.ofWire_bare (registry : Registry) (m : Wire.Package) :
    ofWire registry m.bare = Decoded.map bare <$> ofWire registry m := by
  simp only [ofWire_eq, assemble_bare, bind_map_left, map_bind, map_pure, Prod.map, id_eq,
    Builder.build_bare]
  rfl

/-- The search for subpackages looks at labels alone, and so not at provenance. -/
lemma Builder.buildChecked_bare (b : Builder) (log : EventLog) :
    b.bare.buildChecked log =
      Prod.map id (CheckedPackage.bare <$> ·) <$> b.buildChecked log := by
  have hname : b.bare.name = b.name := rfl
  have hfiles : b.bare.files = b.files := rfl
  simp only [buildChecked, hname, hfiles, build_bare, map_bind]
  congr 1
  funext found
  split_ifs <;> rfl

/-- Decoding with a search for subpackages commutes with forgetting the provenance as well. -/
theorem CheckedPackage.ofWire_bare (registry : Registry) (m : Wire.Package) :
    ofWire registry m.bare = Decoded.map bare <$> ofWire registry m := by
  simp only [ofWire_eq, assemble_bare, bind_map_left, map_bind, map_pure, Prod.map, id_eq,
    Builder.finishChecked, Builder.buildChecked_bare, liftM_map, Inquiry.ofExcept_map]
  rfl

/-! ## Comparisons -/

deriving instance ReflBEq for InputFile
deriving instance ReflBEq for PackageGroup
deriving instance ReflBEq for Subinclude
deriving instance ReflBEq for Package
deriving instance ReflBEq for CheckedPackage
deriving instance ReflBEq for Event
deriving instance ReflBEq for EventLog

namespace Package

/-- Comparing packages does not look at provenance. -/
@[simp] theorem beq_bare (p p' : Package) : (p.bare == p'.bare) = (p == p') := by
  have hrules : (p.rules.map Rule.bare == p'.rules.map Rule.bare) = (p.rules == p'.rules) :=
    beq_map_map Rule.beq_bare p.rules p'.rules
  show instBEqPackage.beq _ _ = instBEqPackage.beq _ _
  simp only [instBEqPackage.beq, bare, hrules]

/-- Two packages that nobody can tell apart who does not look at provenance. -/
structure Alike (p p' : Package) : Prop where
  /-- The packages are equal by comparison. -/
  beq : (p' == p) = true
  /-- Nothing but the rules differs, so the output files are the same. -/
  rest : { p' with rules := p.rules } = p
  /-- The rules look alike, one by one. -/
  rules : List.Forall₂ Rule.Alike p.rules p'.rules

/-- Packages that differ in provenance alone look alike. -/
theorem alike_of_bare_eq {p p' : Package} (h : p'.bare = p.bare) : p.Alike p' := by
  refine ⟨?_, congrArg (fun q : Package => { q with rules := p.rules }) h, ?_⟩
  · rw [← beq_bare, h, beq_self_eq_true]
  · have hrules : p.rules.map Rule.bare = p'.rules.map Rule.bare :=
      (congrArg rules h).symm
    rw [← List.forall₂_eq_eq_eq, List.forall₂_map_left_iff, List.forall₂_map_right_iff] at hrules
    exact hrules.imp fun r r' hr => Rule.alike_of_bare_eq hr.symm

end Package

namespace CheckedPackage

@[simp] theorem beq_bare (p p' : CheckedPackage) : (p.bare == p'.bare) = (p == p') := by
  show (p.package.bare == p'.package.bare && _) = (p.package == p'.package && _)
  rw [Package.beq_bare]

/-- Two packages with the same crossings that nobody can tell apart who does not look at
provenance. -/
structure Alike (p p' : CheckedPackage) : Prop where
  /-- The packages are equal by comparison. -/
  beq : (p' == p) = true
  /-- The crossings are the same. -/
  crossings : p'.crossings = p.crossings
  /-- The packages look alike. -/
  package : p.package.Alike p'.package

/-- Packages that differ in provenance alone look alike. -/
theorem alike_of_bare_eq {p p' : CheckedPackage} (h : p'.bare = p.bare) : p.Alike p' := by
  have hpackage : p'.package.bare = p.package.bare := congrArg package h
  have hcrossings : p'.bare.crossings = p.bare.crossings := congrArg crossings h
  refine ⟨?_, hcrossings, Package.alike_of_bare_eq hpackage⟩
  rw [← beq_bare, h, beq_self_eq_true]

end CheckedPackage

/-- Results with the same events and with packages that look alike. -/
structure Decoded.Alike {α : Type} [BEq α] (R : α → α → Prop) (d d' : Decoded α) : Prop where
  /-- The results are equal by comparison. -/
  beq : (d' == d) = true
  /-- The events are the same. -/
  events : d'.events = d.events
  /-- The packages look alike. -/
  package : R d.package d'.package

/-! ## Messages -/

lemma Decoded.alike_of_map_eq {α : Type} [BEq α] {R : α → α → Prop} {f : α → α}
    (hbeq : ∀ a b, R a b → (b == a) = true) (hf : ∀ a b, f b = f a → R a b) (d d' : Decoded α)
    (h : d'.map f = d.map f) : d.Alike R d' := by
  obtain ⟨hbare, hevents⟩ := Decoded.mk.inj h
  have hpackage : R d.package d'.package := hf _ _ hbare
  refine ⟨?_, hevents, hpackage⟩
  show (d'.package == d.package && d'.events == d.events) = true
  rw [hbeq _ _ hpackage, hevents, beq_self_eq_true]
  rfl

/-- Messages that differ in the provenance of their lists alone are decoded with the same questions,
and either both fail with the same error or both give the same events and packages that look alike.
So it is with a search for subpackages.

**Proof sketch.** Without their provenance the two messages are the same. Decoding commutes with
forgetting it, so the results are the same up to provenance, which no comparison looks at. -/
theorem Package.agree_of_bare_eq {m m' : Wire.Package} (h : m'.bare = m.bare)
    (registry : Registry) (w : Workspace) :
    (Package.ofWire registry m).Agree (Decoded.Alike Package.Alike) w
        (Package.ofWire registry m') ∧
      (CheckedPackage.ofWire registry m).Agree (Decoded.Alike CheckedPackage.Alike) w
        (CheckedPackage.ofWire registry m') := by
  constructor
  · have hmap : Decoded.map bare <$> Package.ofWire registry m' =
        Decoded.map bare <$> Package.ofWire registry m := by
      rw [← Package.ofWire_bare, h, Package.ofWire_bare]
    exact (Inquiry.agree_of_map_eq hmap).imp
      (Decoded.alike_of_map_eq (fun _ _ => Alike.beq) fun _ _ => alike_of_bare_eq)
  · have hmap : Decoded.map CheckedPackage.bare <$> CheckedPackage.ofWire registry m' =
        Decoded.map CheckedPackage.bare <$> CheckedPackage.ofWire registry m := by
      rw [← CheckedPackage.ofWire_bare, h, CheckedPackage.ofWire_bare]
    exact (Inquiry.agree_of_map_eq hmap).imp
      (Decoded.alike_of_map_eq (fun _ _ => CheckedPackage.Alike.beq)
        fun _ _ => CheckedPackage.alike_of_bare_eq)

/-- A list of sources declared by patterns against one without provenance, beside outputs whose
provenance changes. -/
theorem Package.agree_of_bare_eq_of_outputs :
    let registry : Registry := .register .empty ⟨"genrule", .ofList [
      ("srcs", AttributeType.labelList), ("outs", .outputList)]⟩
    let srcs : Wire.Attribute :=
      { name := "srcs", discriminator := 6, strings := ["//app:a.c", "//lib"] }
    let outs : Wire.Attribute := { name := "outs", discriminator := 7, strings := ["//app:b/x"] }
    let glob : Wire.GlobCriteria :=
      { included := ["*.c"], excluded := ["b.c"], isGlob := some true }
    let r : Wire.Rule := { name := "//app:gen", ruleClass := "genrule", attributes := [srcs, outs] }
    let m : Wire.Package := { name := "app", rules := [r] }
    let m' : Wire.Package := { m with rules := [{ r with attributes := [
      { srcs with globCriteria := [glob] },
      { outs with globCriteria := [glob, { included := ["//app:c"] }] }] }] }
    let w : Workspace := ⟨fun package => some ⟨package ++ "/BUILD"⟩, fun d => some (d == "app/b")⟩
    m'.bare = m.bare ∧ m' ≠ m ∧
      ((Package.ofWire registry m).inWorkspace w).2.isOk = true ∧
      (Package.ofWire registry m).Agree (Decoded.Alike Package.Alike) w
        (Package.ofWire registry m') ∧
      (CheckedPackage.ofWire registry m).Agree (Decoded.Alike CheckedPackage.Alike) w
        (CheckedPackage.ofWire registry m') := by
  intro registry srcs outs glob r m m' w
  have h : m'.bare = m.bare := rfl
  exact ⟨h, by decide, by decide +kernel, Package.agree_of_bare_eq h registry w⟩

end BuildPackage
