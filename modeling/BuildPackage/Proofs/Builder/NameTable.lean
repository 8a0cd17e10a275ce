import BuildPackage.Proofs.Builder.Addition
import Mathlib.Data.List.Nodup

set_option relaxedAutoImplicit false
set_option autoImplicit false

/-!
# The name table of a builder

A builder keeps the names of its targets twice: in its table, where they are looked up when a target
is added, and in the labels of the targets themselves. Whatever is done to a builder, the two agree.
So a name of a finished package leads to one target at most.

## Main definitions

* `BuildPackage.Builder.heldLabels`, `BuildPackage.Builder.heldNames` — what a builder holds.
* `BuildPackage.Builder.Consistent` — the table and the targets agree.
* `BuildPackage.Package.Unambiguous` — a name leads to one target at most.

## Main results

* `BuildPackage.Builder.Consistent.enter` — a target for which there is room keeps the agreement.
* `BuildPackage.Builder.consistent_foldl_applyIfAccepted` — every sequence of changes keeps it.
* `BuildPackage.Builder.consistent_afterChanges` — it holds for every builder that can be reached,
  and for the lookups in its package.
-/

namespace BuildPackage

/-! ## Agreement -/

namespace Builder

/-- A table grows by the number of names that are put into it, if they are new and differ. -/
lemma size_insertMany {names : NameTable} {ns : List String} (hn : ns.Nodup)
    (hf : ∀ n ∈ names, n ∉ ns) : (names.insertMany ns).size = names.size + ns.length := by
  refine Std.ExtTreeSet.size_insertMany_list (hn.imp fun hne => ?_) fun n hmem => ?_
  · rwa [Std.LawfulEqCmp.compare_eq_iff_eq]
  · simpa using hf n hmem

/-- The labels of all targets that a builder holds: input files, package groups, rules, outputs. -/
def heldLabels (b : Builder) : List Label :=
  b.inputFiles.toList.map InputFile.label ++ b.packageGroups.toList.map PackageGroup.label ++
    b.rules.toList.map Rule.label ++ b.outputFiles.toList.map OutputFile.label

/-- The names of all targets that a builder holds. -/
def heldNames (b : Builder) : List String := b.heldLabels.map Label.name

/-- The table of names agrees with the targets. -/
structure Consistent (b : Builder) : Prop where
  /-- The names that are taken are those of the targets. -/
  containsTarget_iff : ∀ n, b.containsTarget n = true ↔ n ∈ b.heldNames
  /-- No two targets have the same name, whatever their kinds. -/
  nodup : b.heldNames.Nodup
  /-- There are as many names as targets. -/
  targetCount_eq : b.targetCount =
    b.inputFiles.size + b.packageGroups.size + b.rules.size + b.outputFiles.size
  /-- All targets lie in the package. -/
  owned : ∀ l ∈ b.heldLabels, l.package = b.name
  /-- The output files are those of the rules, in the order of the rules. -/
  outputFiles_eq : b.outputFiles.toList = b.rules.toList.flatMap Rule.outputFiles

lemma length_heldNames (b : Builder) : b.heldNames.length =
    b.inputFiles.size + b.packageGroups.size + b.rules.size + b.outputFiles.size := by
  simp [heldNames, heldLabels]
  omega

/-- Entering a target adds its labels to those held. -/
lemma heldLabels_enter_perm (b : Builder) (t : Target) :
    (b.enter t).heldLabels.Perm (b.heldLabels ++ t.labels) := by
  have hr : ∀ r : Rule, r.outputFiles.map OutputFile.label = r.outputs := by
    intro r
    simp [Rule.outputFiles, Function.comp_def]
  refine List.perm_iff_count.2 fun l => ?_
  cases t <;>
    simp [heldLabels, enter, record, Target.labels, Target.label, Target.outputs, hr,
      List.count_cons] <;>
    omega

/-- Every output file that is entered belongs to a rule that is entered with it. -/
lemma outputFiles_enter {b : Builder} (t : Target)
    (h : b.outputFiles.toList = b.rules.toList.flatMap Rule.outputFiles) :
    (b.enter t).outputFiles.toList = (b.enter t).rules.toList.flatMap Rule.outputFiles := by
  cases t with
  | inputFile f => exact h
  | packageGroup g => exact h
  | rule r => simp [enter, record, h]

lemma consistent_empty (name : String) : (empty name).Consistent where
  containsTarget_iff n := by simp [containsTarget, empty, heldNames, heldLabels]
  nodup := by simp [heldNames, heldLabels, empty]
  targetCount_eq := rfl
  owned l hl := by simp [heldLabels, empty] at hl
  outputFiles_eq := rfl

/-- A target for which there is room keeps the table and the targets in agreement.

**Proof sketch.** The labels held afterwards are those held before and those of the target, up to
order. The names of the latter differ among themselves and, as none of them was taken, from all
names held before. The table grows by the same names, each of which is new. -/
theorem Consistent.enter {b : Builder} {t : Target} (h : b.Consistent)
    (hv : Vacant b.name b.names t.labels) : (b.enter t).Consistent := by
  have hperm := heldLabels_enter_perm b t
  have hnames : (b.enter t).heldNames.Perm (b.heldNames ++ t.labels.map Label.name) := by
    simpa [heldNames] using hperm.map Label.name
  have hiff : ∀ n, (b.enter t).containsTarget n = true ↔ n ∈ (b.enter t).heldNames := by
    intro n
    rw [hnames.mem_iff, List.mem_append, ← h.containsTarget_iff]
    simp [containsTarget]
  have hnodup : (b.enter t).heldNames.Nodup := by
    rw [hnames.nodup_iff, List.nodup_append]
    refine ⟨h.nodup, hv.nodup, ?_⟩
    rintro n hn _ hm rfl
    exact hv.notMem_of_mem ((h.containsTarget_iff n).2 hn) hm
  refine ⟨hiff, hnodup, ?_, ?_, outputFiles_enter t h.outputFiles_eq⟩
  · have hsize : (b.enter t).targetCount = b.targetCount + (t.labels.map Label.name).length :=
      size_insertMany hv.nodup fun _ hn => hv.notMem_of_mem hn
    rw [← length_heldNames, hnames.length_eq, hsize, h.targetCount_eq, ← length_heldNames,
      List.length_append]
  · intro l hl
    rw [enter_name]
    rcases List.mem_append.1 (hperm.mem_iff.1 hl) with hl | hl
    · exact h.owned l hl
    · exact hv.owned l hl

/-! ## Changes -/

/-- Two builders that hold the same targets under the same package name. -/
structure SameTargets (b b' : Builder) : Prop where
  /-- The package names agree. -/
  name : b'.name = b.name
  /-- The same names are taken. -/
  names : b'.names = b.names
  /-- The input files agree. -/
  inputFiles : b'.inputFiles = b.inputFiles
  /-- The package groups agree. -/
  packageGroups : b'.packageGroups = b.packageGroups
  /-- The rules agree. -/
  rules : b'.rules = b.rules
  /-- The output files agree. -/
  outputFiles : b'.outputFiles = b.outputFiles

variable {b b' : Builder}

lemma SameTargets.refl (b : Builder) : b.SameTargets b := ⟨rfl, rfl, rfl, rfl, rfl, rfl⟩

/-- Agreement depends on the targets only. -/
lemma Consistent.congr (h : b.Consistent) (hs : b.SameTargets b') : b'.Consistent := by
  have hl : b'.heldLabels = b.heldLabels := by
    simp only [heldLabels, hs.inputFiles, hs.packageGroups, hs.rules, hs.outputFiles]
  have hn : b'.heldNames = b.heldNames := by
    simp only [heldNames, hl]
  refine ⟨fun n => ?_, ?_, ?_, ?_, ?_⟩
  · rw [containsTarget, hs.names, hn]
    exact h.containsTarget_iff n
  · rw [hn]
    exact h.nodup
  · rw [targetCount, hs.names, hs.inputFiles, hs.packageGroups, hs.rules, hs.outputFiles]
    exact h.targetCount_eq
  · rw [hl, hs.name]
    exact h.owned
  · rw [hs.outputFiles, hs.rules]
    exact h.outputFiles_eq

/-- A change that is accepted either adds a target or leaves the targets as they are. -/
lemma apply_cases {c : Change} (h : b.apply c = .ok b') :
    (∃ t, c = .add t ∧ b.add t = .ok b') ∨ b.SameTargets b' := by
  cases c with
  | add t => exact .inl ⟨t, rfl, h⟩
  | _ =>
    obtain rfl := Except.ok.inj h
    exact .inr ⟨rfl, rfl, rfl, rfl, rfl, rfl⟩

/-- A change leads to a builder with one more target, for which there was room, or to one with the
same targets. -/
lemma applyIfAccepted_cases (b : Builder) (c : Change) :
    (∃ t, Vacant b.name b.names t.labels ∧ b.applyIfAccepted c = b.enter t) ∨
      b.SameTargets (b.applyIfAccepted c) := by
  unfold applyIfAccepted
  split
  · rename_i b' h
    rcases apply_cases h with ⟨t, -, ht⟩ | hs
    · obtain ⟨hv, rfl⟩ := add_eq_ok_iff.1 ht
      exact .inl ⟨t, hv, rfl⟩
    · exact .inr hs
  · exact .inr (.refl b)

/-- One change, accepted or refused, keeps the name of the package. -/
lemma name_applyIfAccepted (b : Builder) (c : Change) : (b.applyIfAccepted c).name = b.name := by
  rcases applyIfAccepted_cases b c with ⟨t, -, h⟩ | hs
  · rw [h, enter_name]
  · exact hs.name

/-- One change, accepted or refused, keeps the table and the targets in agreement. -/
lemma Consistent.applyIfAccepted (h : b.Consistent) (c : Change) :
    (b.applyIfAccepted c).Consistent := by
  rcases applyIfAccepted_cases b c with ⟨t, hv, ht⟩ | hs
  · rw [ht]
    exact h.enter hv
  · exact h.congr hs

/-- Every sequence of changes keeps the table and the targets in agreement.

**Proof sketch.** Induction on the changes; each of them is `Consistent.applyIfAccepted`. -/
theorem consistent_foldl_applyIfAccepted (h : b.Consistent) (changes : List Change) :
    (changes.foldl Builder.applyIfAccepted b).Consistent ∧
      (changes.foldl Builder.applyIfAccepted b).name = b.name := by
  induction changes generalizing b with
  | nil => exact ⟨h, rfl⟩
  | cons c changes ih =>
    rw [List.foldl_cons, ← name_applyIfAccepted b c]
    exact ih (h.applyIfAccepted c)

end Builder

/-! ## Lookups -/

/-- A name of a package leads to one target at most, and to an output file only if to nothing else.
-/
structure Package.Unambiguous (p : Package) : Prop where
  /-- Looking up a rule finds the one rule of that name. -/
  rule?_eq_some_iff : ∀ n r, p.rule? n = some r ↔ r ∈ p.rules ∧ r.name = n
  /-- Looking up an input file finds the one input file of that name. -/
  inputFile?_eq_some_iff : ∀ n f, p.inputFile? n = some f ↔ f ∈ p.inputFiles ∧ f.name = n
  /-- Looking up a package group finds the one package group of that name. -/
  packageGroup?_eq_some_iff : ∀ n g, p.packageGroup? n = some g ↔ g ∈ p.packageGroups ∧ g.name = n
  /-- At most one of the three lookups finds something. -/
  exclusive : ∀ n, (p.rule? n).isSome.toNat + (p.inputFile? n).isSome.toNat +
    (p.packageGroup? n).isSome.toNat ≤ 1
  /-- The name of an output file leads to no other target. -/
  outputFiles : ∀ l ∈ p.outputFiles,
    p.rule? l.name = none ∧ p.inputFile? l.name = none ∧ p.packageGroup? l.name = none

/-- A search by name finds something only if the name occurs. -/
lemma toNat_isSome_find?_le_count {α : Type} (f : α → String) (xs : List α) (n : String) :
    (xs.find? fun y => f y = n).isSome.toNat ≤ (xs.map f).count n := by
  cases h : xs.find? fun y => f y = n with
  | none => simp
  | some y =>
    have hy : f y = n := by simpa using List.find?_some h
    exact List.one_le_count_iff.2 (hy ▸ List.mem_map_of_mem (List.mem_of_find?_eq_some h))

namespace Builder

variable {b : Builder}

/-- The names held, by the kinds of the targets in the finished package. -/
lemma heldNames_eq (b : Builder) : b.heldNames =
    b.build.inputFiles.map InputFile.name ++ b.build.packageGroups.map PackageGroup.name ++
      b.build.rules.map Rule.name ++ b.build.outputFiles.map Label.name := by
  simp only [heldNames, heldLabels, build, List.map_append, List.map_map]
  rfl

/-- How often a name is held bounds how many lookups find it.

**Proof sketch.** A lookup that finds something finds it in the list of its kind, and the names held
are those of the four lists one after another, in which no name occurs twice. -/
lemma Consistent.toNat_lookups_le (h : b.Consistent) (n : String) :
    (b.build.rule? n).isSome.toNat + (b.build.inputFile? n).isSome.toNat +
      (b.build.packageGroup? n).isSome.toNat +
        (b.build.outputFiles.map Label.name).count n ≤ 1 := by
  have hone : b.heldNames.count n ≤ 1 := List.nodup_iff_count_le_one.1 h.nodup n
  have hr := toNat_isSome_find?_le_count Rule.name b.build.rules n
  have hf := toNat_isSome_find?_le_count InputFile.name b.build.inputFiles n
  have hg := toNat_isSome_find?_le_count PackageGroup.name b.build.packageGroups n
  rw [heldNames_eq, List.count_append, List.count_append, List.count_append] at hone
  unfold Package.rule? Package.inputFile? Package.packageGroup?
  omega

/-- In the package of a builder whose table agrees with its targets, names are unambiguous. -/
lemma Consistent.unambiguous (h : b.Consistent) : b.build.Unambiguous := by
  have hn := h.nodup
  rw [heldNames_eq, List.nodup_append, List.nodup_append, List.nodup_append] at hn
  obtain ⟨⟨⟨hfiles, hgroups, -⟩, hrules, -⟩, -, -⟩ := hn
  refine ⟨Outcome.find?_eq_some_iff_of_nodup hrules, Outcome.find?_eq_some_iff_of_nodup hfiles,
    Outcome.find?_eq_some_iff_of_nodup hgroups, fun n => ?_, fun l hl => ?_⟩
  · have := h.toNat_lookups_le n
    omega
  · have hl : 1 ≤ (b.build.outputFiles.map Label.name).count l.name :=
      List.one_le_count_iff.2 (List.mem_map_of_mem hl)
    have := h.toNat_lookups_le l.name
    have hnone : ∀ {α : Type} (o : Option α), o.isSome.toNat = 0 → o = none := by
      rintro α (_ | _) <;> simp
    exact ⟨hnone _ (by omega), hnone _ (by omega), hnone _ (by omega)⟩

/-- The finished package has the outputs of its rules, in the order of the rules. -/
lemma Consistent.outputFiles_build (h : b.Consistent) :
    b.build.outputFiles = b.build.rules.flatMap Rule.outputs := by
  simp [build, h.outputFiles_eq, List.map_flatMap, Rule.outputFiles, Function.comp_def]

/-- Whatever is done to a new builder, its table of names agrees with its targets, which all lie in
its package, and names are unambiguous in the package that it finishes.

**Proof sketch.** The table of a new builder is empty and so are its lists. Every change keeps them
in agreement (`consistent_foldl_applyIfAccepted`), and agreement makes names unambiguous. -/
theorem consistent_afterChanges (name : String) (changes : List Change) :
    let b := afterChanges name changes
    b.name = name ∧ b.Consistent ∧ b.build.Unambiguous ∧
      b.build.outputFiles = b.build.rules.flatMap Rule.outputs := by
  intro b
  obtain ⟨hc, hname⟩ := consistent_foldl_applyIfAccepted (consistent_empty name) changes
  exact ⟨hname, hc, hc.unambiguous, hc.outputFiles_build⟩

end Builder

end BuildPackage
