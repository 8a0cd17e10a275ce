import BuildPackage.Package.Builder
import BuildPackage.Proofs.Outcome
import Mathlib.Data.List.Perm.Basic

set_option relaxedAutoImplicit false
set_option autoImplicit false

/-!
# Adding targets

A target takes names one after another, and each step looks at a table that the steps before it have
changed. Whether all of them succeed does not depend on that order: the labels have to lie in the
package, their names have to differ, and none of them may be taken. The same condition, for all
labels at once, decides whether a sequence of targets can be added.

## Main definitions

* `BuildPackage.Vacant` — labels that a package has room for.
* `BuildPackage.Builder.enter` — a builder with one more target.

## Main results

* `BuildPackage.Builder.add_eq_ok_iff` — when a target can be added.
* `BuildPackage.Builder.addAll_eq_ok_iff` — when targets can be added one after another.
* `BuildPackage.Builder.foldl_enter_eq` — the builder with more targets, part by part.
* `BuildPackage.Vacant.perm` — the order of the labels does not matter.
-/

namespace BuildPackage

/-! ## Room for labels -/

/-- The labels that a target brings: its own and those of its outputs. -/
def Target.labels (t : Target) : List Label := t.label :: t.outputs

/-- The input files that a target is: one or none. -/
def Target.inputFiles : Target → List InputFile
  | inputFile f => [f]
  | _ => []

/-- The package groups that a target is: one or none. -/
def Target.packageGroups : Target → List PackageGroup
  | packageGroup g => [g]
  | _ => []

/-- The rules that a target is: one or none. -/
def Target.rules : Target → List Rule
  | rule r => [r]
  | _ => []

/-- Labels that a package has room for, given the names that are taken. -/
structure Vacant (package : String) (names : NameTable) (labels : List Label) : Prop where
  /-- All of them lie in the package. -/
  owned : ∀ l ∈ labels, l.package = package
  /-- No two of them have the same name. -/
  nodup : (labels.map Label.name).Nodup
  /-- None of the names is taken. -/
  free : ∀ l ∈ labels, l.name ∉ names

namespace Vacant

variable {package : String} {names : NameTable} {labels labels' : List Label}

lemma nil : Vacant package names [] := ⟨by simp, by simp, by simp⟩

/-- A name that is taken is none of the labels' names. -/
lemma notMem_of_mem (h : Vacant package names labels) {n : String} (hn : n ∈ names) :
    n ∉ labels.map Label.name := by
  intro hm
  obtain ⟨l, hl, rfl⟩ := List.mem_map.1 hm
  exact h.free l hl hn

/-- Room for a list is room for its head and, once the head has its name, room for the rest. -/
lemma cons_iff {l : Label} :
    Vacant package names (l :: labels) ↔
      (l.package = package ∧ l.name ∉ names) ∧ Vacant package (names.insert l.name) labels := by
  constructor
  · rintro ⟨ho, hn, hf⟩
    simp only [List.map_cons, List.nodup_cons, List.mem_map, not_exists, not_and] at hn
    refine ⟨⟨ho l (by simp), hf l (by simp)⟩, fun k hk => ho k (by simp [hk]), hn.2, ?_⟩
    intro k hk
    have hne : l.name ≠ k.name := fun h => hn.1 k hk h.symm
    simp [hne, hf k (by simp [hk])]
  · rintro ⟨⟨hp, hl⟩, ho, hn, hf⟩
    have hf' : ∀ k ∈ labels, l.name ≠ k.name ∧ k.name ∉ names := by
      intro k hk
      simpa using hf k hk
    refine ⟨by simpa [hp] using ho, ?_, ?_⟩
    · simp only [List.map_cons, List.nodup_cons, List.mem_map, not_exists, not_and]
      exact ⟨fun k hk h => (hf' k hk).1 h.symm, hn⟩
    · simpa [hl] using fun k hk => (hf' k hk).2

/-- Room for two lists is room for the first and, once that has its names, room for the second. -/
lemma append_iff :
    Vacant package names (labels ++ labels') ↔
      Vacant package names labels ∧
        Vacant package (names.insertMany (labels.map Label.name)) labels' := by
  induction labels generalizing names with
  | nil => simp [nil]
  | cons l labels ih =>
    simp only [List.cons_append, cons_iff, ih, List.map_cons, Std.ExtTreeSet.insertMany_cons,
      and_assoc]

/-- Only the collection of the labels counts. -/
lemma perm (h : labels.Perm labels') :
    Vacant package names labels ↔ Vacant package names labels' := by
  have imp : ∀ {k k' : List Label}, k.Perm k' → Vacant package names k →
      Vacant package names k' := fun hk v =>
    ⟨fun l hl => v.owned l (hk.mem_iff.2 hl), (hk.map Label.name).nodup_iff.1 v.nodup,
      fun l hl => v.free l (hk.mem_iff.2 hl)⟩
  exact ⟨imp h, imp h.symm⟩

/-- In a package without targets there is room for all labels of the package with different names.
-/
lemma empty_iff :
    Vacant package ∅ labels ↔
      (∀ l ∈ labels, l.package = package) ∧ (labels.map Label.name).Nodup :=
  ⟨fun h => ⟨h.owned, h.nodup⟩, fun h => ⟨h.1, h.2, by simp⟩⟩

end Vacant

/-! ## Taking names -/

namespace Builder

variable {package : String} {names names' : NameTable}

lemma claim_eq_ok_iff {kind : TargetKind} {l : Label} :
    claim package kind names l = .ok names' ↔
      (l.package = package ∧ l.name ∉ names) ∧ names.insert l.name = names' := by
  unfold claim
  split_ifs with hp hn
  · simp [hp]
  · simp [Std.ExtTreeSet.mem_iff_contains, hn]
  · simp only [Except.ok.injEq, Std.ExtTreeSet.mem_iff_contains]
    exact ⟨fun h => ⟨⟨not_not.1 hp, hn⟩, h⟩, fun h => h.2⟩

/-- Names are taken one after another exactly if there is room for all of them.

**Proof sketch.** Induction on the labels: what the head leaves free is what `Vacant.cons_iff` asks
of the rest. -/
lemma foldlM_claim_eq_ok_iff {kind : TargetKind} {labels : List Label} :
    labels.foldlM (claim package kind) names = .ok names' ↔
      Vacant package names labels ∧ names.insertMany (labels.map Label.name) = names' := by
  induction labels generalizing names with
  | nil => simp [Vacant.nil]
  | cons l labels ih =>
    simp only [List.foldlM_cons, Outcome.bind_eq_ok_iff, claim_eq_ok_iff, ih, Vacant.cons_iff,
      List.map_cons, Std.ExtTreeSet.insertMany_cons]
    constructor
    · rintro ⟨_, ⟨hl, rfl⟩, hv, rfl⟩
      exact ⟨⟨hl, hv⟩, rfl⟩
    · rintro ⟨⟨hl, hv⟩, rfl⟩
      exact ⟨_, ⟨hl, rfl⟩, hv, rfl⟩

/-- A target takes its name and those of its outputs exactly if there is room for all of them. -/
lemma claimAll_eq_ok_iff {t : Target} :
    claimAll package names t = .ok names' ↔
      Vacant package names t.labels ∧
        names.insertMany (t.labels.map Label.name) = names' := by
  simp only [claimAll, Target.labels, Outcome.bind_eq_ok_iff, claim_eq_ok_iff,
    foldlM_claim_eq_ok_iff, Vacant.cons_iff, List.map_cons, Std.ExtTreeSet.insertMany_cons]
  constructor
  · rintro ⟨_, ⟨hl, rfl⟩, hv, rfl⟩
    exact ⟨⟨hl, hv⟩, rfl⟩
  · rintro ⟨⟨hl, hv⟩, rfl⟩
    exact ⟨_, ⟨hl, rfl⟩, hv, rfl⟩

/-! ## Entering targets -/

/-- The builder with one more target, whether or not there is room for it. -/
def enter (b : Builder) (t : Target) : Builder :=
  { b.record t with names := b.names.insertMany (t.labels.map Label.name) }

variable {b b' : Builder} {t : Target} {ts : List Target}

/-- A target is added exactly if there is room for its labels, and is entered then. -/
theorem add_eq_ok_iff : b.add t = .ok b' ↔ Vacant b.name b.names t.labels ∧ b.enter t = b' := by
  simp only [add, Outcome.bind_eq_ok_iff, Outcome.pure_eq_ok_iff, claimAll_eq_ok_iff]
  constructor
  · rintro ⟨_, ⟨hv, rfl⟩, rfl⟩
    exact ⟨hv, rfl⟩
  · rintro ⟨hv, rfl⟩
    exact ⟨_, ⟨hv, rfl⟩, rfl⟩

@[simp] lemma enter_names (b : Builder) (t : Target) :
    (b.enter t).names = b.names.insertMany (t.labels.map Label.name) := rfl

@[simp] lemma enter_name (b : Builder) (t : Target) : (b.enter t).name = b.name := by
  cases t <;> rfl

@[simp] lemma enter_buildFile (b : Builder) (t : Target) :
    (b.enter t).buildFile = b.buildFile := by
  cases t <;> rfl

/-- Targets are added one after another exactly if there is room for all their labels together.

**Proof sketch.** Induction on the targets. Entering the first one changes the table by the names
of its labels, so `Vacant.append_iff` splits the room for all labels in the same place. -/
theorem addAll_eq_ok_iff :
    b.addAll ts = .ok b' ↔
      Vacant b.name b.names (ts.flatMap Target.labels) ∧ ts.foldl enter b = b' := by
  induction ts generalizing b with
  | nil => simp [addAll, Vacant.nil]
  | cons t ts ih =>
    have ih' : ∀ c : Builder, List.foldlM add c ts = .ok b' ↔
        Vacant c.name c.names (ts.flatMap Target.labels) ∧ ts.foldl enter c = b' := fun _ => ih
    simp only [addAll, List.foldlM_cons, Outcome.bind_eq_ok_iff, add_eq_ok_iff, ih',
      List.flatMap_cons, Vacant.append_iff, List.foldl_cons]
    constructor
    · rintro ⟨_, ⟨hv, rfl⟩, hv', rfl⟩
      exact ⟨⟨hv, by simpa using hv'⟩, rfl⟩
    · rintro ⟨⟨hv, hv'⟩, rfl⟩
      exact ⟨_, ⟨hv, rfl⟩, by simpa using hv', rfl⟩

/-- The builder with more targets, whether or not there is room for them. -/
lemma foldl_enter_eq (ts : List Target) (b : Builder) :
    ts.foldl enter b =
      { b with
        inputFiles := b.inputFiles ++ ts.flatMap Target.inputFiles
        packageGroups := b.packageGroups ++ ts.flatMap Target.packageGroups
        rules := b.rules ++ ts.flatMap Target.rules
        outputFiles := b.outputFiles ++ (ts.flatMap Target.rules).flatMap Rule.outputFiles
        names := b.names.insertMany ((ts.flatMap Target.labels).map Label.name) } := by
  have hassoc : ∀ (files : Array OutputFile) (k l : List OutputFile),
      files ++ k ++ l = files ++ (k ++ l) := fun _ _ _ => Array.ext' (by simp)
  induction ts generalizing b with
  | nil => simp
  | cons t ts ih =>
    rw [List.foldl_cons, ih]
    cases t <;>
      simp [enter, record, Target.inputFiles, Target.packageGroups, Target.rules,
        Std.ExtTreeSet.insertMany_append, hassoc]

end Builder

end BuildPackage
