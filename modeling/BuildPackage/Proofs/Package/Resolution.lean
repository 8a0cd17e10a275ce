import BuildPackage.Proofs.Package.Boundary
import BuildPackage.Proofs.Package.FirstFailure

set_option relaxedAutoImplicit false
set_option autoImplicit false

/-!
# Which build files are sought

Decoding a message seeks build files in a fixed order. That of the message itself comes first. Then, if
it is found and the defaults are in order, those of the included labels follow one after another, until
one of them is not found or a text is no label. Both ways of decoding do so when they establish the
setting, and neither the targets nor the events nor the search for subpackages seek any other.

## Main definitions

* `BuildPackage.Inquiry.sought` — the packages whose build files an inquiry asks for.
* `BuildPackage.Wire.Package.namesSought` — the packages whose build files are sought for a message.
* `BuildPackage.Wire.Package.Resolves` — how the build files of a message are sought.

## Main results

* `BuildPackage.Inquiry.sought_bind` — what a sequence of inquiries seeks.
* `BuildPackage.Setting.sought_ofWire` — what is sought for a setting.
* `BuildPackage.Package.resolves_buildFiles` — which build files the two ways of decoding seek.
-/

namespace BuildPackage

/-! ## Packages sought -/

/-- The package whose build file is asked for. -/
def Question.package? : Question → Option String
  | buildFile package => some package
  | isPackage _ => none

namespace Inquiry

variable {α β : Type} {w : Workspace}

/-- The packages whose build files an inquiry asks for, in order. -/
def sought (w : Workspace) (i : Inquiry α) : List String :=
  (i.inWorkspace w).1.filterMap Question.package?

lemma sought_pure (a : α) : (pure a : Inquiry α).sought w = [] := rfl

lemma sought_buildFile (package : String) (missing : DecodeError) :
    (buildFile package missing).sought w = [package] := by
  rw [sought, inWorkspace_buildFile]
  rfl

/-- A function of the result changes nothing about what is sought. -/
lemma sought_map (f : α → β) (i : Inquiry α) : (f <$> i).sought w = i.sought w := by
  rw [sought, inWorkspace_map]
  rfl

/-- A sequence seeks what its first part seeks, and if that succeeds, what its second part seeks. -/
theorem sought_bind (i : Inquiry α) (f : α → Inquiry β) :
    (i >>= f).sought w =
      i.sought w ++ (i.outcome w).toOption.elim [] fun a => (f a).sought w := by
  unfold sought outcome
  rw [inWorkspace_bind]
  obtain ⟨asked, _ | a⟩ := i.inWorkspace w
  · exact (List.append_nil _).symm
  · exact List.filterMap_append

/-- If the second part of a sequence seeks nothing, all is sought by the first one. -/
lemma sought_bind_of_forall_nil {i : Inquiry α} {f : α → Inquiry β}
    (h : ∀ a, (f a).sought w = []) : (i >>= f).sought w = i.sought w := by
  rw [sought_bind]
  cases (i.outcome w).toOption <;> simp [h]

lemma outcome_map (f : α → β) (i : Inquiry α) : (f <$> i).outcome w = f <$> i.outcome w := by
  rw [outcome, inWorkspace_map]
  rfl

lemma outcome_buildFile (package : String) (missing : DecodeError) :
    (buildFile package missing).outcome w = (w.buildFile? package).elim (.error missing) .ok := by
  rw [outcome, inWorkspace_buildFile]

end Inquiry

/-! ## Included build files -/

/-- Packages up to the first one without a build file, which is the last. -/
def Workspace.upToUnknown (w : Workspace) (packages : List String) : List String :=
  packages.takeWhile (fun p => (w.buildFile? p).isSome) ++
    (packages.find? fun p => (w.buildFile? p).isNone).toList

/-- The packages of some labels, up to the first text that is no label. -/
def labeledPackages (texts : List String) : List String :=
  (texts.takeWhile fun text => (Label.parse text).isOk).filterMap
    fun text => (Label.parse text).toOption.map Label.package

namespace Subinclude

variable {w : Workspace} {text : String} {label : Label}

/-- A text that is no label is refused before anything is asked. -/
lemma ofWire_of_error {e : LabelError} (h : Label.parse text = .error e) :
    Subinclude.ofWire text = Inquiry.ofExcept (.error (.label e)) := by
  rw [Subinclude.ofWire, readLabel, h]
  rfl

/-- A label is included by asking for the build file of its package. -/
lemma ofWire_of_ok (h : Label.parse text = .ok label) :
    Subinclude.ofWire text = (fun buildFile => ⟨label, buildFile.parent.join label.name⟩) <$>
      Inquiry.buildFile label.package (.unresolvedSubinclude label) := by
  rw [Subinclude.ofWire, readLabel, h, map_eq_pure_bind]
  rfl

/-- The build files of included labels are sought in order, up to one that is not found or a text that
is no label.

**Proof sketch.** Induction on the texts. What comes behind the head is sought only if the head is a
label and its build file is found. -/
theorem sought_mapM (texts : List String) :
    (texts.mapM Subinclude.ofWire).sought w = w.upToUnknown (labeledPackages texts) := by
  induction texts with
  | nil => rfl
  | cons text texts ih =>
    have hrest : ∀ x : Subinclude,
        (texts.mapM Subinclude.ofWire >>= fun xs => pure (x :: xs)).sought w =
          w.upToUnknown (labeledPackages texts) :=
      fun x => (Inquiry.sought_bind_of_forall_nil fun _ => Inquiry.sought_pure _).trans ih
    rw [List.mapM_cons, Inquiry.sought_bind]
    simp only [hrest]
    cases h : Label.parse text with
    | error e =>
      have hnone : labeledPackages (text :: texts) = [] := by
        simp [labeledPackages, h, Except.isOk, Except.toBool]
      rw [hnone, ofWire_of_error h]
      rfl
    | ok label =>
      have hcons : labeledPackages (text :: texts) = label.package :: labeledPackages texts := by
        simp [labeledPackages, h, Except.isOk, Except.toBool, Except.toOption]
      rw [hcons, ofWire_of_ok h, Inquiry.sought_map, Inquiry.sought_buildFile, Inquiry.outcome_map,
        Inquiry.outcome_buildFile]
      cases hfile : w.buildFile? label.package with
      | none => simp [Workspace.upToUnknown, hfile, Except.toOption]
      | some file => simp [Workspace.upToUnknown, hfile, Except.toOption]

end Subinclude

/-! ## Settings -/

namespace Wire.Package

/-- Whether the defaults are read: the labels of a visibility that is said to be set, the license and
the distributions. -/
def defaultsDecode (m : Wire.Package) : Bool :=
  (m.defaultVisibilitySet != some true || (readLabels m.defaultVisibility).isOk) &&
    m.defaultLicense.all (fun l => (License.ofWire l).isOk) &&
      (readDistributions m.defaultDistributions).isOk

/-- The packages whose build files are sought for a message. -/
def namesSought (w : Workspace) (m : Wire.Package) : List String :=
  m.name ::
    if (w.buildFile? m.name).isSome && m.defaultsDecode then
      w.upToUnknown (labeledPackages m.subincludes)
    else []

/-- An included label without a build file, behind labels that have one. -/
def FirstUnresolved (w : Workspace) (m : Wire.Package) (label : Label) : Prop :=
  Outcome.FirstRefused
    (fun text => ∃ l, Label.parse text = .ok l ∧ (w.buildFile? l.package).isSome = true)
    (fun text l => Label.parse text = .ok l ∧ w.buildFile? l.package = none) m.subincludes label

/-- How an inquiry seeks the build files of a message. -/
structure Resolves {α : Type} (w : Workspace) (m : Wire.Package) (i : Inquiry α) : Prop where
  /-- The build files that are sought. -/
  sought : i.sought w = m.namesSought w
  /-- If the build file of the message is not found, that is the error. -/
  notFound : w.buildFile? m.name = none → i.outcome w = .error (.buildFileNotFound m.name)
  /-- If the build file of an included label is sought and not found, that is the error. -/
  unresolved : (w.buildFile? m.name).isSome = true → m.defaultsDecode = true →
    ∀ label, m.FirstUnresolved w label → i.outcome w = .error (.unresolvedSubinclude label)

end Wire.Package

variable {w : Workspace} {m m' : Wire.Package} {registry : Registry}

lemma Defaults.isOk_ofWire : (Defaults.ofWire m).isOk = m.defaultsDecode := by
  rw [Bool.eq_iff_iff, Defaults.isOk_ofWire_iff, ← isOk_readLabels_iff,
    ← isOk_readDistributions_iff, imp_iff_not_or, Wire.Package.defaultsDecode]
  cases m.defaultLicense <;> simp [and_assoc]

namespace Setting

/-- What is sought for the setting of a message. -/
theorem sought_ofWire : (Setting.ofWire m).sought w = m.namesSought w := by
  have hsubincludes : ∀ buildFile defaults,
      (m.subincludes.mapM Subinclude.ofWire >>= fun subincludes =>
        pure ({ buildFile, defaults, subincludes } : Setting)).sought w =
          w.upToUnknown (labeledPackages m.subincludes) := fun _ _ =>
    (Inquiry.sought_bind_of_forall_nil fun _ => Inquiry.sought_pure _).trans
      (Subinclude.sought_mapM _)
  have hdefaults : ∀ buildFile,
      (Inquiry.ofExcept (Defaults.ofWire m) >>= fun defaults =>
        m.subincludes.mapM Subinclude.ofWire >>= fun subincludes =>
          pure ({ buildFile, defaults, subincludes } : Setting)).sought w =
        (Defaults.ofWire m).toOption.elim [] fun _ =>
          w.upToUnknown (labeledPackages m.subincludes) := by
    intro buildFile
    rw [Inquiry.sought_bind]
    simp only [hsubincludes]
    rfl
  rw [Wire.Package.namesSought, Setting.ofWire, Inquiry.sought_bind, ← Defaults.isOk_ofWire]
  simp only [hdefaults, Inquiry.sought_buildFile, Inquiry.outcome_buildFile]
  cases w.buildFile? m.name <;> cases Defaults.ofWire m <;> rfl

/-- Without a build file of the message there is no setting. -/
lemma outcome_of_unknown (h : w.buildFile? m.name = none) :
    (Setting.ofWire m).outcome w = .error (.buildFileNotFound m.name) := by
  rw [Setting.ofWire, Inquiry.outcome_bind, Inquiry.outcome_buildFile, h]
  rfl

/-- Without the build file of an included label there is no setting. -/
lemma outcome_of_unresolved {label : Label} (hfile : (w.buildFile? m.name).isSome = true)
    (hdefaults : m.defaultsDecode = true) (hlabel : m.FirstUnresolved w label) :
    (Setting.ofWire m).outcome w = .error (.unresolvedSubinclude label) := by
  obtain ⟨buildFile, hfile⟩ := Option.isSome_iff_exists.1 hfile
  rw [← Defaults.isOk_ofWire, Outcome.isOk_iff] at hdefaults
  obtain ⟨defaults, hdefaults⟩ := hdefaults
  have hsubincludes : (m.subincludes.mapM Subinclude.ofWire).outcome w =
      .error (.unresolvedSubinclude label) := by
    obtain ⟨before, text, after, hsplit, hbefore, htext, hnone⟩ := hlabel
    rw [Inquiry.outcome_mapM, Outcome.mapM_eq_error_iff]
    refine ⟨before, text, after, hsplit, fun t ht => ?_, ?_⟩
    · obtain ⟨l, hl, hknown⟩ := hbefore t ht
      obtain ⟨file, hknown⟩ := Option.isSome_iff_exists.1 hknown
      rw [Subinclude.ofWire_of_ok hl, Inquiry.outcome_map, Inquiry.outcome_buildFile, hknown]
      rfl
    · dsimp only
      rw [Subinclude.ofWire_of_ok htext, Inquiry.outcome_map, Inquiry.outcome_buildFile, hnone]
      rfl
  simp only [Setting.ofWire, Inquiry.outcome_bind, Inquiry.outcome_buildFile, hfile,
    Inquiry.outcome_ofExcept, hdefaults, hsubincludes]
  rfl

/-- An inquiry that begins with the setting of a message and seeks nothing else seeks the build files
of the message. -/
theorem resolves_bind {α : Type} {f : Setting → Inquiry α} (h : ∀ s, (f s).sought w = []) :
    m.Resolves w (Setting.ofWire m >>= f) where
  sought := (Inquiry.sought_bind_of_forall_nil h).trans sought_ofWire
  notFound hnone := by
    rw [Inquiry.outcome_bind, outcome_of_unknown hnone]
    rfl
  unresolved hfile hdefaults label hlabel := by
    rw [Inquiry.outcome_bind, outcome_of_unresolved hfile hdefaults hlabel]
    rfl

end Setting

/-! ## Packages -/

/-- What a message seeks depends on its header only. -/
lemma Wire.Package.namesSought_congr (h : m'.header = m.header) :
    m'.namesSought w = m.namesSought w := by
  have hheader : ∀ m : Wire.Package, m.namesSought w = m.header.namesSought w := fun _ => rfl
  rw [hheader m', h, ← hheader m]

/-- The search for subpackages seeks no build file. -/
lemma Builder.sought_finishChecked (b : Builder) (log : EventLog) :
    (b.finishChecked log).sought w = [] := by
  rw [Inquiry.sought, b.inWorkspace_finishChecked, List.filterMap_eq_nil_iff]
  intro q hq
  obtain ⟨directory, rfl⟩ := (searched_patrol b.name b.files).only q hq
  rfl

lemma Package.resolves_ofWire : m.Resolves w (Package.ofWire registry m) :=
  Setting.resolves_bind fun _ => Inquiry.sought_bind_of_forall_nil fun _ => Inquiry.sought_pure _

lemma CheckedPackage.resolves_ofWire : m.Resolves w (CheckedPackage.ofWire registry m) :=
  Setting.resolves_bind fun _ =>
    Inquiry.sought_bind_of_forall_nil fun b => b.sought_finishChecked _

/-- Which build files decoding seeks.

Both ways of decoding seek the build file of the message, and if it is found and the defaults are in
order, those of the included labels, in their order and with repetitions, up to and with the first one
that is not found, and before the first text that is no label. A build file that is not found is the
error. No registry, no target and no event makes a difference to what is sought. -/
theorem Package.resolves_buildFiles (registry : Registry) (w : Workspace) (m : Wire.Package) :
    m.Resolves w (Package.ofWire registry m) ∧ m.Resolves w (CheckedPackage.ofWire registry m) ∧
      ∀ registry' m', m'.header = m.header →
        (Package.ofWire registry' m').sought w = (Package.ofWire registry m).sought w ∧
        (CheckedPackage.ofWire registry' m').sought w =
          (CheckedPackage.ofWire registry m).sought w := by
  refine ⟨Package.resolves_ofWire, CheckedPackage.resolves_ofWire, fun registry' m' h => ⟨?_, ?_⟩⟩
  · rw [Package.resolves_ofWire.sought, Package.resolves_ofWire.sought,
      Wire.Package.namesSought_congr h]
  · rw [CheckedPackage.resolves_ofWire.sought, CheckedPackage.resolves_ofWire.sought,
      Wire.Package.namesSought_congr h]

/-- A message that includes two files of one package, then one of a package that nobody knows, and one
more; the same message with a source file; and the same message under a name that nobody knows. -/
theorem Package.resolves_buildFiles_of_repetition :
    let m : Wire.Package := { name := "lib", subincludes := ["//x:1", "//x:2", "//y:3", "//x:4"] }
    let m' : Wire.Package := { m with sourceFiles := [{ name := "//lib:a/b" }] }
    let lost : Wire.Package := { m with name := "lost" }
    let w : Workspace :=
      ⟨fun p => if p = "lib" ∨ p = "x" then some ⟨"BUILD"⟩ else none, fun _ => some false⟩
    ∃ label, Label.parse "//y:3" = .ok label ∧
      (Package.ofWire .empty m).outcome w = .error (.unresolvedSubinclude label) ∧
      (CheckedPackage.ofWire .empty m).sought w = ["lib", "x", "x", "y"] ∧
      (CheckedPackage.ofWire .empty m').sought w = ["lib", "x", "x", "y"] ∧
      (Package.ofWire .empty lost).sought w = ["lost"] ∧
      (CheckedPackage.ofWire .empty lost).outcome w = .error (.buildFileNotFound "lost") := by
  intro m m' lost w
  obtain ⟨hplain, hchecked, hsame⟩ := Package.resolves_buildFiles .empty w m
  obtain ⟨hplain', hchecked', -⟩ := Package.resolves_buildFiles .empty w lost
  have hx : ∀ t ∈ ["//x:1", "//x:2"], Label.package <$> Label.parse t = .ok "x" := by
    decide +kernel
  have hy : Label.package <$> Label.parse "//y:3" = .ok "y" := by decide +kernel
  obtain ⟨label, hlabel, hpackage⟩ := Outcome.map_eq_ok_iff.1 hy
  have hnames : m.namesSought w = ["lib", "x", "x", "y"] := by decide +kernel
  have hnames' : lost.namesSought w = ["lost"] := by decide +kernel
  refine ⟨label, hlabel, hplain.unresolved rfl (by decide +kernel) label ?_,
    hchecked.sought.trans hnames, (hsame .empty m' rfl).2.trans (hchecked.sought.trans hnames),
    hplain'.sought.trans hnames', hchecked'.notFound rfl⟩
  refine ⟨["//x:1", "//x:2"], "//y:3", ["//x:4"], rfl, fun t ht => ?_, hlabel, ?_⟩
  · obtain ⟨l, hl, hp⟩ := Outcome.map_eq_ok_iff.1 (hx t ht)
    refine ⟨l, hl, ?_⟩
    rw [hp]
    rfl
  · rw [hpackage]
    rfl

end BuildPackage
