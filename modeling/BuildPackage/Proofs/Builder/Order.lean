import BuildPackage.Proofs.Builder.Addition

set_option relaxedAutoImplicit false
set_option autoImplicit false

/-!
# The order of additions

Whether all targets of a list can be added is decided by the room for all their labels at once,
which has no order. So the targets can be added in every order or in none, and the builders that
they lead to hold the same, each kind of targets in its own order.

## Main definitions

* `BuildPackage.Builder.Rearranges` — builders that differ in the order of their targets at most.

## Main results

* `BuildPackage.Builder.addAll_perm` — the order of additions does not matter.
-/

namespace BuildPackage.Builder

/-- Only the collection of the names that are taken counts. -/
lemma insertMany_eq_of_perm {names : NameTable} {ns ns' : List String} (h : ns.Perm ns') :
    names.insertMany ns = names.insertMany ns' := by
  refine Std.ExtTreeSet.ext_mem fun n => ?_
  simp only [Std.ExtTreeSet.mem_insertMany_list, List.contains_iff_mem, h.mem_iff]

/-- Two builders that differ in the order of their targets at most. -/
structure Rearranges (c c' : Builder) : Prop where
  /-- The package names agree. -/
  name : c'.name = c.name
  /-- The build files agree. -/
  buildFile : c'.buildFile = c.buildFile
  /-- The defaults agree. -/
  defaults : c'.defaults = c.defaults
  /-- The included build files agree, order included. -/
  subincludes : c'.subincludes = c.subincludes
  /-- The make variables agree. -/
  makeEnvironment : c'.makeEnvironment = c.makeEnvironment
  /-- Both contain errors or neither does. -/
  containsErrors : c'.containsErrors = c.containsErrors
  /-- The same names are taken. -/
  containsTarget : ∀ n, c'.containsTarget n = c.containsTarget n
  /-- There are as many targets. -/
  targetCount : c'.targetCount = c.targetCount
  /-- The input files are the same. -/
  inputFiles : c'.inputFiles.toList.Perm c.inputFiles.toList
  /-- The package groups are the same. -/
  packageGroups : c'.packageGroups.toList.Perm c.packageGroups.toList
  /-- The rules are the same. -/
  rules : c'.rules.toList.Perm c.rules.toList
  /-- The output files are the same. -/
  outputFiles : c'.outputFiles.toList.Perm c.outputFiles.toList

variable {ts ts' : List Target}

/-- Entering targets in another order leads to a builder that differs in their order at most. -/
lemma rearranges_foldl_enter (b : Builder) (h : ts.Perm ts') :
    (ts.foldl enter b).Rearranges (ts'.foldl enter b) := by
  have hnames : b.names.insertMany ((ts'.flatMap Target.labels).map Label.name) =
      b.names.insertMany ((ts.flatMap Target.labels).map Label.name) :=
    insertMany_eq_of_perm ((h.symm.flatMap_right _).map _)
  have hfiles := (h.symm.flatMap_right Target.inputFiles).append_left b.inputFiles.toList
  have hgroups := (h.symm.flatMap_right Target.packageGroups).append_left b.packageGroups.toList
  have hrules := (h.symm.flatMap_right Target.rules).append_left b.rules.toList
  have houtputs := ((h.symm.flatMap_right Target.rules).flatMap_right Rule.outputFiles).append_left
    b.outputFiles.toList
  rw [foldl_enter_eq, foldl_enter_eq]
  refine ⟨rfl, rfl, rfl, rfl, rfl, rfl, fun n => ?_, ?_, ?_, ?_, ?_, ?_⟩
  · simp only [containsTarget, hnames]
  · simp only [targetCount, hnames]
  · simpa using hfiles
  · simpa using hgroups
  · simpa using hrules
  · simpa using houtputs

/-- The order in which targets are added does not matter: all of them can be added in one order
exactly if they can in another, and the builders that they lead to differ in the order of their
targets at most.

**Proof sketch.** Targets can be added exactly if there is room for all their labels together
(`addAll_eq_ok_iff`), and only the collection of the labels counts for that (`Vacant.perm`). -/
theorem addAll_perm (b : Builder) (h : ts.Perm ts') :
    ((b.addAll ts).isOk = true ↔ (b.addAll ts').isOk = true) ∧
      ∀ c, b.addAll ts = .ok c → ∃ c', b.addAll ts' = .ok c' ∧ c.Rearranges c' := by
  have hvacant : Vacant b.name b.names (ts.flatMap Target.labels) ↔
      Vacant b.name b.names (ts'.flatMap Target.labels) :=
    Vacant.perm (h.flatMap_right _)
  refine ⟨?_, fun c hc => ?_⟩
  · simp only [Outcome.isOk_iff, addAll_eq_ok_iff, exists_and_left, exists_eq', and_true]
    exact hvacant
  · obtain ⟨hv, rfl⟩ := addAll_eq_ok_iff.1 hc
    exact ⟨_, addAll_eq_ok_iff.2 ⟨hvacant.1 hv, rfl⟩, rearranges_foldl_enter b h⟩

/-- A rule with an output, a source file and a group, in two orders. -/
theorem addAll_perm_of_reverse :
    let place : Location := .ofFile ⟨"app/BUILD"⟩
    let ts : List Target := [
      .rule ⟨⟨"app", "gen", by decide, by decide⟩, "genrule", place, ∅,
        [⟨"app", "out.c", by decide, by decide⟩, ⟨"app", "out.h", by decide, by decide⟩]⟩,
      .inputFile ⟨⟨"app", "main.c", by decide, by decide⟩, place, none, none⟩,
      .packageGroup ⟨⟨"app", "friends", by decide, by decide⟩, ["//app/..."], [], place⟩]
    let b : Builder := empty "app"
    ts.Perm ts.reverse ∧
      ∃ c c', b.addAll ts = .ok c ∧ b.addAll ts.reverse = .ok c' ∧ c.Rearranges c' := by
  intro place ts b
  have hperm : ts.Perm ts.reverse := ts.reverse_perm.symm
  have hok : (b.addAll ts).isOk = true := by decide +kernel
  obtain ⟨c, hc⟩ := Outcome.isOk_iff.1 hok
  obtain ⟨c', hc', hcc'⟩ := (addAll_perm b hperm).2 c hc
  exact ⟨hperm, c, c', hc, hc', hcc'⟩

end BuildPackage.Builder
