import BuildPackage.Proofs.Package.Boundary
import BuildPackage.Proofs.Path.Parent

set_option relaxedAutoImplicit false
set_option autoImplicit false

/-!
# Where included build files are

A label that is included stands for a file beside the build file of the label's package. The path of
the file goes on from the directory of that build file with the segments of the target name. So it
is however the workspace writes the path of the build file, and since no target name is absolute or
goes up, the file is always below that directory.

## Main definitions

* `BuildPackage.Subinclude.Beside` — an included file beside a build file.
* `BuildPackage.Wire.Package.IncludesBeside` — the included files of a message.

## Main results

* `BuildPackage.Subinclude.Renders.exists_beside` — what is included lies beside a build file.
* `BuildPackage.Package.subincludes_beside_buildFiles` — where decoding finds the included files.
-/

namespace BuildPackage

variable {w : Workspace} {m : Wire.Package} {registry : Registry}

/-- An included file beside a build file. -/
structure Subinclude.Beside (buildFile : Path) (x : Subinclude) : Prop where
  /-- The components of the build file but the last one come first, then the segments of the target
  name. If the build file has no component, or the root directory alone, the name stands alone. -/
  components : x.path.components =
    buildFile.components.dropLast ++ (Segments.split x.label.name.toList).map .entry
  /-- The target name does not take the place of the directory, and does not lead out of it. -/
  isBelow : x.path.IsBelow buildFile.parent
  /-- The target name is relative and never goes up. -/
  descends : Descends x.label.name
  /-- The target name is not empty. -/
  name_ne : x.label.name ≠ ""
  /-- No segment of the target name means nothing. -/
  segments : ∀ s ∈ Segments.split x.label.name.toList, s ≠ [] ∧ s ≠ ['.']

/-- The included files of a message: for each label in order, one beside the build file of the
label's package. -/
def Wire.Package.IncludesBeside (w : Workspace) (m : Wire.Package) (files : List Subinclude) :
    Prop :=
  List.Forall₂ (fun text x => Label.parse text = .ok x.label ∧
    ∃ buildFile, w.buildFile? x.label.package = some buildFile ∧ x.Beside buildFile)
    m.subincludes files

/-- What is included lies beside the build file that the workspace knows.

**Proof sketch.** The parent of the build file has all its components but the last one, and the
target name adds its segments, which are entries. -/
theorem Subinclude.Renders.exists_beside {text : String} {x : Subinclude} (h : x.Renders w text) :
    ∃ buildFile, w.buildFile? x.label.package = some buildFile ∧ x.Beside buildFile := by
  obtain ⟨buildFile, hfile, hpath⟩ := h.path
  have hcomponents : x.path.components =
      buildFile.parent.components ++ (Segments.split x.label.name.toList).map .entry := by
    rw [hpath, Path.components_join_name]
  refine ⟨buildFile, hfile, ?_, ?_, x.label.descends_name, x.label.name_grammar.ne_empty,
    fun s hs => ⟨(x.label.segments_name s hs).ne_nil, (x.label.segments_name s hs).ne_dot⟩⟩
  · rw [hcomponents, Path.components_parent]
  · rw [Path.isBelow_iff_of_components hcomponents]
    simp

/-- A builder has the included files of its message. -/
lemma includesBeside_of_outcome_assemble {b : Builder} {log : EventLog}
    (h : (assemble registry m).outcome w = .ok (b, log)) :
    m.IncludesBeside w b.build.subincludes := by
  obtain ⟨s, hs, hb, -⟩ := outcome_assemble_eq_ok_iff.1 h
  obtain ⟨files, groups, rules, -, -, -, -, rfl⟩ := Builder.ofWire_eq_ok_iff.1 hb
  obtain ⟨-, -, hsubincludes⟩ := Setting.outcome_eq_ok_iff.1 hs
  exact hsubincludes.imp fun text x hx => ⟨hx.label, hx.exists_beside⟩

/-- Wherever a message is decoded, with or without a search for subpackages, each of its included
labels stands for a file beside the build file of the label's package. -/
theorem Package.subincludes_beside_buildFiles (registry : Registry) (w : Workspace)
    (m : Wire.Package) :
    (∀ d, (Package.ofWire registry m).outcome w = .ok d →
      m.IncludesBeside w d.package.subincludes) ∧
    ∀ d, (CheckedPackage.ofWire registry m).outcome w = .ok d →
      m.IncludesBeside w d.package.package.subincludes :=
  forall_decoded_of_assembled (P := fun p => m.IncludesBeside w p.subincludes) (fun _ _ h => h)
    fun _ _ h => includesBeside_of_outcome_assemble h

/-- Build files whose paths have doubled slashes, meaningless segments, the root directory alone or
nothing at all. -/
theorem Package.subincludes_beside_buildFiles_of_spellings :
    let m : Wire.Package := {
      name := "app", subincludes := ["//lib:sub/defs.inc", "//top:defs.inc", "//bare", "//lost"] }
    let w : Workspace := ⟨fun package => some ⟨
      if package = "lib" then "./ws//lib/./BUILD/."
      else if package = "top" then "/../BUILD"
      else if package = "bare" then "/" else ""⟩, fun _ => some false⟩
    (∃ d, (Package.ofWire .empty m).outcome w = .ok d ∧
      d.package.subincludes.map (·.path.text) =
        ["./ws//lib/sub/defs.inc", "/../defs.inc", "bare", "lost"] ∧
      m.IncludesBeside w d.package.subincludes) ∧
    ∃ d, (CheckedPackage.ofWire .empty m).outcome w = .ok d ∧
      m.IncludesBeside w d.package.package.subincludes := by
  intro m w
  obtain ⟨hplain, hchecked⟩ := Package.subincludes_beside_buildFiles .empty w m
  have htexts : (fun d => d.package.subincludes.map (·.path.text)) <$>
      (Package.ofWire .empty m).outcome w =
        .ok ["./ws//lib/sub/defs.inc", "/../defs.inc", "bare", "lost"] := by decide +kernel
  obtain ⟨d, hd, htexts⟩ := Outcome.map_eq_ok_iff.1 htexts
  obtain ⟨c, hc⟩ := Outcome.isOk_iff.1
    (by decide +kernel : ((CheckedPackage.ofWire .empty m).outcome w).isOk = true)
  exact ⟨⟨d, hd, htexts, hplain d hd⟩, c, hc, hchecked c hc⟩

end BuildPackage
