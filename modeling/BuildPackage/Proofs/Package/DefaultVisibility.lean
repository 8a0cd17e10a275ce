import BuildPackage.Proofs.Package.Boundary
import BuildPackage.Proofs.Package.FirstFailure

set_option relaxedAutoImplicit false
set_option autoImplicit false

/-!
# Default visibility

A message has labels of a default visibility and a flag that says whether a default visibility is
declared. The labels count only if the flag is there and true. Setting a visibility in a builder
marks it as declared, so the flag of the message is written behind it, and none of the changes that
follow touches the visibility or the flag again.

## Main definitions

* `BuildPackage.Defaults.FollowsFlag` — defaults with the visibility that the flag of a message asks
  for.
* `BuildPackage.Setting.firstChanges`, `BuildPackage.Setting.laterChanges` — the changes by which
  the builder of a message comes about.
* `BuildPackage.Builder.Assembled` — a builder that has come about by these changes.
* `BuildPackage.Package.KeepsFlag` — a package with the visibility that its message asks for.

## Main results

* `BuildPackage.Defaults.followsFlag_of_ofWire` — defaults that are read follow the flag.
* `BuildPackage.Setting.foldlM_changes` — the builder of a message comes about change by change.
* `BuildPackage.Package.defaultVisibility_follows_flag` — the default visibility of a package.
-/

namespace BuildPackage

variable {registry : Registry} {w : Workspace} {m : Wire.Package}

/-! ## Following the flag -/

namespace Defaults

/-- Defaults with the visibility that a message asks for. -/
structure FollowsFlag (m : Wire.Package) (d : Defaults) : Prop where
  /-- A visibility is declared if the message says so. -/
  visibilitySet : d.visibilitySet = m.defaultVisibilitySet.getD false
  /-- A visibility that is declared is that of all labels of the message. -/
  flagged : m.defaultVisibilitySet = some true → ∃ labels,
    List.Forall₂ (fun text l => Label.parse text = .ok l) m.defaultVisibility labels ∧
      d.visibility = .ofLabels labels
  /-- Otherwise nobody may depend on a target. -/
  unflagged : m.defaultVisibilitySet ≠ some true → d.visibility = .nobody

/-- Defaults that are read follow the flag. -/
theorem followsFlag_of_ofWire {d : Defaults} (h : ofWire m = .ok d) : d.FollowsFlag m := by
  obtain ⟨hvisibility, -, -, hset, -⟩ := ofWire_eq_ok_iff.1 h
  unfold readVisibility at hvisibility
  refine ⟨hset, fun hflag => ?_, fun hflag => ?_⟩
  · rw [if_pos hflag, Outcome.map_eq_ok_iff] at hvisibility
    obtain ⟨labels, hlabels, hv⟩ := hvisibility
    exact ⟨labels, readLabels_eq_ok_iff.1 hlabels, hv.symm⟩
  · rw [if_neg hflag] at hvisibility
    exact (Except.ok.inj hvisibility).symm

/-- Labels that are not flagged are not even read. -/
lemma ofWire_of_unflagged (h : m.defaultVisibilitySet ≠ some true) (labels : List String) :
    ofWire { m with defaultVisibility := labels } = ofWire m := by
  have hread : readVisibility { m with defaultVisibility := labels } = readVisibility m := by
    unfold readVisibility
    rw [if_neg h, if_neg h]
  rw [ofWire_eq, ofWire_eq, hread]
  rfl

/-- Defaults with the same visibility, declared alike. -/
structure SameVisibility (d d' : Defaults) : Prop where
  /-- The visibilities agree. -/
  visibility : d'.visibility = d.visibility
  /-- Either both are declared or neither is. -/
  visibilitySet : d'.visibilitySet = d.visibilitySet

namespace SameVisibility

variable {d d' d'' : Defaults}

lemma refl (d : Defaults) : d.SameVisibility d := ⟨rfl, rfl⟩

lemma trans (h : d.SameVisibility d') (h' : d'.SameVisibility d'') : d.SameVisibility d'' :=
  ⟨h'.visibility.trans h.visibility, h'.visibilitySet.trans h.visibilitySet⟩

end SameVisibility

end Defaults

/-- Labels of a default visibility that are not flagged do not count, whatever they are. -/
lemma assemble_of_unflagged (h : m.defaultVisibilitySet ≠ some true) (labels : List String) :
    assemble registry { m with defaultVisibility := labels } = assemble registry m := by
  have hsetting : Setting.ofWire { m with defaultVisibility := labels } = Setting.ofWire m := by
    simp only [Setting.ofWire, Defaults.ofWire_of_unflagged h]
  simp only [assemble, hsetting]
  rfl

/-! ## Changes that leave the visibility alone -/

namespace Builder

/-- Whether a change leaves the default visibility and its flag alone. -/
def Change.SparesVisibility : Change → Prop
  | setDefaultVisibility _ | setDefaultVisibilitySet _ => False
  | _ => True

variable {b b' : Builder} {changes : List Change}

/-- All changes but two keep the default visibility and its flag. -/
lemma sameVisibility_of_apply {c : Change} (hc : c.SparesVisibility) (h : b.apply c = .ok b') :
    b.defaults.SameVisibility b'.defaults := by
  cases c with
  | setDefaultVisibility => exact hc.elim
  | setDefaultVisibilitySet => exact hc.elim
  | add t =>
    obtain ⟨-, rfl⟩ := add_eq_ok_iff.1 h
    cases t <;> exact .refl _
  | _ =>
    obtain rfl := Except.ok.inj h
    exact ⟨rfl, rfl⟩

/-- Changes that leave the default visibility alone keep it together. -/
theorem sameVisibility_of_foldlM (hchanges : ∀ c ∈ changes, c.SparesVisibility)
    (h : changes.foldlM apply b = .ok b') : b.defaults.SameVisibility b'.defaults :=
  Outcome.foldlM_keeps (P := fun c => b.defaults.SameVisibility c.defaults)
    (fun _ hmem _ _ hsame happly =>
      hsame.trans (sameVisibility_of_apply (hchanges _ hmem) happly)) (.refl _) h

end Builder

/-! ## The changes of a message -/

namespace Setting

open Builder (Change)

/-- The first changes of the builder of a message: the build file is set, and the default visibility
if it is flagged. Setting it marks it as declared, so the flag is set behind it. -/
def firstChanges (m : Wire.Package) (s : Setting) : List Change :=
  .setBuildFile s.buildFile ::
    (if m.defaultVisibilitySet = some true then [.setDefaultVisibility s.defaults.visibility]
      else []) ++
    [.setDefaultVisibilitySet (m.defaultVisibilitySet.getD false)]

/-- The changes by which the other defaults are set, as far as the message has them. -/
def defaultsChanges (m : Wire.Package) (s : Setting) : List Change :=
  (m.defaultObsolete.map .setDefaultObsolete).toList ++
  (m.defaultTestonly.map .setDefaultTestonly).toList ++
  (m.defaultDeprecation.map .setDefaultDeprecation).toList ++
  (m.defaultLicense.map fun _ => .setDefaultLicense s.defaults.license).toList ++
  [.setDefaultDistributions s.defaults.distributions]

/-- The changes by which the rest of the setting comes into the builder of a message. -/
def settingChanges (m : Wire.Package) (s : Setting) : List Change :=
  s.defaultsChanges m ++ s.subincludes.map .addSubinclude ++
  [.setMakeEnvironment (.ofWire m.makeVariables)]

/-- All changes of the builder of a message that follow the first ones: the rest of the setting, the
targets, and at last the errors. -/
def laterChanges (m : Wire.Package) (s : Setting) (targets : List Target) : List Change :=
  s.settingChanges m ++ targets.map .add ++
  if m.containsErrors.getD false then [.setContainsErrors] else []

variable {s : Setting}

/-- Only the first changes set the default visibility or its flag. -/
lemma sparesVisibility_of_mem_laterChanges {targets : List Target} :
    ∀ c ∈ s.laterChanges m targets, c.SparesVisibility := by
  have hoption : ∀ {α : Type} (f : α → Change) (o : Option α), (∀ x, (f x).SparesVisibility) →
      ∀ c ∈ (o.map f).toList, c.SparesVisibility := by
    rintro α f (_ | x) hf
    · simp
    · simpa using hf x
  simp only [laterChanges, settingChanges, defaultsChanges, List.forall_mem_append,
    List.forall_mem_map, List.forall_mem_singleton]
  refine ⟨⟨⟨⟨⟨⟨⟨⟨?_, ?_⟩, ?_⟩, ?_⟩, trivial⟩, fun _ _ => trivial⟩, trivial⟩, fun _ _ => trivial⟩,
    ?_⟩
  · exact hoption _ _ fun _ => trivial
  · exact hoption _ _ fun _ => trivial
  · exact hoption _ _ fun _ => trivial
  · exact hoption _ _ fun _ => trivial
  · split_ifs
    · exact List.forall_mem_singleton.2 trivial
    · simp

/-- The first changes set the build file and a default visibility that follows the flag. -/
lemma foldlM_firstChanges (h : Defaults.ofWire m = .ok s.defaults) :
    (s.firstChanges m).foldlM Builder.apply (.empty m.name) = .ok
      { Builder.empty m.name with
        buildFile := s.buildFile
        defaults :=
          { visibility := s.defaults.visibility, visibilitySet := s.defaults.visibilitySet } } := by
  obtain ⟨hset, -, hunflagged⟩ := Defaults.followsFlag_of_ofWire h
  rw [firstChanges, hset]
  split_ifs with hflag
  · rfl
  · rw [hunflagged hflag]
    rfl

/-- The other defaults are set as the message has them.

**Proof sketch.** What the message does not have keeps the value that it has in a new builder, and
this value is read for it. -/
lemma foldlM_defaultsChanges (h : Defaults.ofWire m = .ok s.defaults) {b : Builder}
    (hb : b.defaults =
      { visibility := s.defaults.visibility, visibilitySet := s.defaults.visibilitySet }) :
    (s.defaultsChanges m).foldlM Builder.apply b = .ok { b with defaults := s.defaults } := by
  obtain ⟨-, hlicense, -, -, hobsolete, htestonly, hdeprecation⟩ := Defaults.ofWire_eq_ok_iff.1 h
  obtain ⟨_, ⟨visibility, set, obsolete, testonly, deprecation, license, distributions⟩, _⟩ := s
  obtain ⟨name, buildFile, defaults⟩ := b
  obtain rfl : defaults = _ := hb
  obtain rfl : obsolete = _ := hobsolete
  obtain rfl : testonly = _ := htestonly
  obtain rfl : deprecation = _ := hdeprecation
  rw [Defaults.readLicense] at hlicense
  rw [defaultsChanges]
  cases hl : m.defaultLicense with
  | none =>
    rw [hl] at hlicense
    obtain rfl : License.noLicense = license := Except.ok.inj hlicense
    cases m.defaultObsolete <;> cases m.defaultTestonly <;> cases m.defaultDeprecation <;> rfl
  | some =>
    cases m.defaultObsolete <;> cases m.defaultTestonly <;> cases m.defaultDeprecation <;> rfl

lemma foldlM_addSubinclude (files : List Subinclude) (b : Builder) :
    (files.map Change.addSubinclude).foldlM Builder.apply b =
      .ok { b with subincludes := b.subincludes ++ files } := by
  induction files generalizing b with
  | nil => simp [pure, Except.pure]
  | cons file files ih =>
    rw [List.map_cons, List.foldlM_cons]
    show List.foldlM Builder.apply { b with subincludes := b.subincludes.push file } _ = _
    rw [ih]
    simp

/-- The builder of a setting, but for errors, comes about change by change. -/
lemma foldlM_settingChanges (h : Defaults.ofWire m = .ok s.defaults) :
    (s.firstChanges m ++ s.settingChanges m).foldlM Builder.apply (.empty m.name) =
      .ok ((Builder.ofSetting m s).withErrors false) := by
  rw [List.foldlM_append, foldlM_firstChanges h]
  show List.foldlM _ _ (s.settingChanges m) = _
  rw [settingChanges, List.foldlM_append, List.foldlM_append, foldlM_defaultsChanges h rfl]
  show (List.foldlM _ _ (s.subincludes.map Change.addSubinclude) >>= _) = _
  rw [foldlM_addSubinclude]
  simp [Builder.ofSetting, Builder.withErrors, Builder.empty, Builder.apply, bind, Except.bind,
    pure, Except.pure]

/-- The builder of a message comes about change by change.

**Proof sketch.** The first changes and the other defaults set what is read as the defaults. The
targets are then added as they are to the builder of the setting. Errors are noted at last here, which
makes no difference, since adding does not look at them. -/
theorem foldlM_changes {targets : List Target} {b : Builder}
    (h : Defaults.ofWire m = .ok s.defaults) (hb : (Builder.ofSetting m s).addAll targets = .ok b) :
    (s.firstChanges m ++ s.laterChanges m targets).foldlM Builder.apply (.empty m.name) =
      .ok b := by
  have herrors : b.containsErrors = m.containsErrors.getD false := by
    obtain ⟨-, rfl⟩ := Builder.addAll_eq_ok_iff.1 hb
    rw [Builder.foldl_enter_eq]
    rfl
  have htargets : (targets.map Change.add).foldlM Builder.apply
      ((Builder.ofSetting m s).withErrors false) = .ok (b.withErrors false) := by
    have hall := Outcome.foldlM_map (Builder.add_withErrors false) (.ofSetting m s) targets
    rw [show targets.foldlM Builder.add _ = _ from hb] at hall
    rw [List.foldlM_map]
    exact hall
  have hlast : ∀ errors : Bool, (if errors then [Change.setContainsErrors] else []).foldlM
      Builder.apply (b.withErrors false) = .ok (b.withErrors errors) := by
    rintro (_ | _) <;> rfl
  rw [laterChanges, ← List.append_assoc, ← List.append_assoc, List.foldlM_append,
    List.foldlM_append, foldlM_settingChanges h]
  show (List.foldlM _ _ (targets.map Change.add) >>= _) = _
  rw [htargets]
  show List.foldlM _ (b.withErrors false) _ = _
  rw [hlast, ← herrors]
  rfl

end Setting

/-! ## Both ways of decoding -/

/-- A builder that has come about by the changes of a message, with the targets that are read in its
setting. From the first changes on, the default visibility and its flag stay as they are. -/
def Builder.Assembled (registry : Registry) (w : Workspace) (m : Wire.Package) (b : Builder) :
    Prop :=
  ∃ s targets, (Setting.ofWire m).outcome w = .ok s ∧
    m.targets.mapM (Target.ofWire registry m.name s.buildFile) = .ok targets ∧
    (s.firstChanges m ++ s.laterChanges m targets).foldlM apply (.empty m.name) = .ok b ∧
    ∀ n, ∃ c, (s.firstChanges m ++ (s.laterChanges m targets).take n).foldlM apply (.empty m.name) =
      .ok c ∧ c.defaults.SameVisibility b.defaults

/-- The builder of a message comes about by its changes.

**Proof sketch.** Reading and adding the targets in one pass comes to the same as adding them after
all are read. None of the changes behind the first ones sets the visibility or its flag. -/
theorem Builder.assembled_of_ofWire {s : Setting} {b : Builder}
    (hs : (Setting.ofWire m).outcome w = .ok s) (hb : Builder.ofWire registry m s = .ok b) :
    b.Assembled registry w m := by
  obtain ⟨targets, htargets, hall⟩ := foldlM_addWire_eq_ok_iff.1 hb
  have hrun := Setting.foldlM_changes (Setting.outcome_eq_ok_iff.1 hs).2.1 hall
  refine ⟨s, targets, hs, htargets, hrun, fun n => ?_⟩
  rw [← List.take_append_drop n (s.laterChanges m targets), ← List.append_assoc,
    List.foldlM_append, Outcome.bind_eq_ok_iff] at hrun
  obtain ⟨c, hc, hrest⟩ := hrun
  exact ⟨c, hc, sameVisibility_of_foldlM (fun change hchange =>
    Setting.sparesVisibility_of_mem_laterChanges change (List.mem_of_mem_drop hchange)) hrest⟩

/-- A package with the default visibility that its message asks for. -/
structure Package.KeepsFlag (registry : Registry) (w : Workspace) (m : Wire.Package) (p : Package) :
    Prop where
  /-- The default visibility follows the flag. -/
  follows : p.defaults.FollowsFlag m
  /-- The package is that of the builder of the message, apart from errors. -/
  builder : ∃ b : Builder, b.Assembled registry w m ∧
    { b.build with containsErrors := p.containsErrors } = p

/-- The package of a builder keeps the flag of the message. -/
lemma Package.keepsFlag_of_outcome_assemble {b : Builder} {log : EventLog}
    (h : (assemble registry m).outcome w = .ok (b, log)) : b.build.KeepsFlag registry w m := by
  obtain ⟨s, hs, hb, -⟩ := outcome_assemble_eq_ok_iff.1 h
  obtain ⟨-, hdefaults, -⟩ := Setting.outcome_eq_ok_iff.1 hs
  refine ⟨?_, b, Builder.assembled_of_ofWire hs hb, rfl⟩
  obtain ⟨files, groups, rules, -, -, -, -, rfl⟩ := Builder.ofWire_eq_ok_iff.1 hb
  exact Defaults.followsFlag_of_ofWire hdefaults

/-- The default visibility of a package follows the flag of its message in both ways of decoding.
Finishing keeps it, and so do all changes of its builder behind the first ones. Labels that are not
flagged do not count, whatever they are: decoding asks the same and comes to the same without them.
-/
theorem Package.defaultVisibility_follows_flag (registry : Registry) (w : Workspace)
    (m : Wire.Package) :
    ((∀ d, (Package.ofWire registry m).outcome w = .ok d → d.package.KeepsFlag registry w m) ∧
      ∀ c, (CheckedPackage.ofWire registry m).outcome w = .ok c →
        c.package.package.KeepsFlag registry w m) ∧
    (m.defaultVisibilitySet ≠ some true → ∀ labels,
      (Package.ofWire registry { m with defaultVisibility := labels }).inWorkspace w =
        (Package.ofWire registry m).inWorkspace w ∧
      (CheckedPackage.ofWire registry { m with defaultVisibility := labels }).inWorkspace w =
        (CheckedPackage.ofWire registry m).inWorkspace w) := by
  refine ⟨forall_decoded_of_assembled (fun p containsErrors h => ?_)
    fun _ _ h => keepsFlag_of_outcome_assemble h, fun hflag labels =>
      inWorkspace_eq_of_assemble_eq (assemble_of_unflagged hflag labels)⟩
  obtain ⟨b, hb, hp⟩ := h.builder
  refine ⟨h.follows, b, hb, ?_⟩
  rw [← hp]

/-- A message that flags its labels, and one that has labels without a flag which are no labels at
all.
-/
theorem Package.defaultVisibility_follows_flag_of_stray_labels :
    let m : Wire.Package := {
      name := "app"
      defaultVisibilitySet := some true
      defaultVisibility := ["//app:friends", "//visibility:public"]
      defaultTestonly := some true
      sourceFiles := [{ name := "//app:main.c" }]
      containsErrors := some true }
    let stray : Wire.Package :=
      { m with defaultVisibilitySet := none, defaultVisibility := ["friends", "//app:"] }
    let w : Workspace := ⟨fun package => some ⟨package ++ "/BUILD"⟩, fun _ => some false⟩
    (∃ d, (Package.ofWire .empty m).outcome w = .ok d ∧ d.package.KeepsFlag .empty w m) ∧
    (∃ c, (CheckedPackage.ofWire .empty stray).outcome w = .ok c ∧
      c.package.package.KeepsFlag .empty w stray) ∧
    stray.defaultVisibilitySet ≠ some true ∧
    (Package.ofWire .empty { stray with defaultVisibility := [] }).inWorkspace w =
      (Package.ofWire .empty stray).inWorkspace w := by
  intro m stray w
  obtain ⟨d, hd⟩ := Outcome.isOk_iff.1
    (by decide +kernel : ((Package.ofWire .empty m).outcome w).isOk = true)
  obtain ⟨c, hc⟩ := Outcome.isOk_iff.1
    (by decide +kernel : ((CheckedPackage.ofWire .empty stray).outcome w).isOk = true)
  have hstray : stray.defaultVisibilitySet ≠ some true := nofun
  obtain ⟨⟨-, hchecked⟩, hunflagged⟩ := defaultVisibility_follows_flag .empty w stray
  exact ⟨⟨d, hd, (defaultVisibility_follows_flag .empty w m).1.1 d hd⟩, ⟨c, hc, hchecked c hc⟩,
    hstray, (hunflagged hstray []).1⟩

end BuildPackage
