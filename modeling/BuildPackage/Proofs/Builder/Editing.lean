import BuildPackage.Package.Editing
import BuildPackage.Proofs.Builder.Addition

set_option relaxedAutoImplicit false
set_option autoImplicit false

/-!
# Atomic additions

Adding a target in place ends in one of two ways: all of it is there, or it is refused and nothing
has been written. For rules this needs an argument, since the outputs are looked at one by one, next
to those that have been seen, before the first of them is written. In a sequence of attempts the
refused ones can therefore be left out.

## Main definitions

* `BuildPackage.Builder.settle` — what a decision makes of a builder in place.
* `BuildPackage.Builder.Checks` — a step that decides something and writes nothing.
* `BuildPackage.Builder.Admits` — what a rule needs in order to be added.

## Main results

* `BuildPackage.Builder.run_insert` — adding in place and adding to a copy come to the same.
* `BuildPackage.Builder.insert_atomic` — when a target is added, and that a refusal leaves no trace.
-/

namespace BuildPackage.Builder

variable {α β : Type}

/-! ## Outcomes in place -/

/-- What comes of a builder in place when something is decided that needs no writing: a refusal
leaves the builder as it is, and otherwise things go on. -/
def settle (b : Builder) (decision : Except DecodeError α)
    (next : α → EStateM.Result DecodeError Builder Unit) : EStateM.Result DecodeError Builder Unit :=
  match decision with
  | .ok a => next a
  | .error e => .error e b

lemma settle_bind (b : Builder) (d : Except DecodeError α) (f : α → Except DecodeError β)
    (next : β → EStateM.Result DecodeError Builder Unit) :
    settle b (d >>= f) next = settle b d fun a => settle b (f a) next := by
  cases d <;> rfl

/-- Where two things go on alike after a decision, the same comes of them. -/
lemma settle_congr {b : Builder} {d : Except DecodeError α}
    {next next' : α → EStateM.Result DecodeError Builder Unit}
    (h : ∀ a, d = .ok a → next a = next' a) : settle b d next = settle b d next' := by
  cases d with
  | error e => rfl
  | ok a => exact h a rfl

/-- A step in place that decides something and writes nothing. -/
def Checks (x : Edit Unit) (b : Builder) (decision : Except DecodeError α) : Prop :=
  x.run b = settle b decision fun _ => .ok () b

/-- What follows a check goes on from the same builder. -/
lemma Checks.run_bind {x y : Edit Unit} {b : Builder} {d : Except DecodeError α}
    (h : Checks x b d) : (do x; y : Edit Unit).run b = settle b d fun _ => y.run b := by
  rw [EStateM.run_bind, h]
  cases d <;> rfl

/-! ## Checks -/

variable (b : Builder)

/-- A label is looked at in two steps, which refuse what cannot be claimed. -/
lemma checks_label (kind : TargetKind) (label : Label) :
    Checks (checkLabel kind label) b (claim b.name kind b.names label) := by
  simp only [Checks, checkLabel, checkOwned, checkFree, claim, EStateM.run_bind, EStateM.run_get]
  by_cases hp : label.package = b.name
  · by_cases hn : label.name ∈ b.names
    · simp [hp, hn, containsTarget, settle]
    · simp [hp, hn, containsTarget, settle]
  · simp [hp, settle]

/-- An output of a rule is looked at next to the rule, to the outputs seen before it, and to the
table: it is refused if it cannot be claimed from a table that has all of these. -/
lemma checks_output (rule : String) (label : Label) {seen names : NameTable}
    (h : ∀ n, n ∈ names ↔ (n = rule ∨ n ∈ seen) ∨ n ∈ b.names) :
    Checks (checkOutput rule seen label) b (claim b.name .outputFile names label) := by
  simp only [Checks, checkOutput, checkOwned, checkFree, claim, EStateM.run_bind, EStateM.run_get,
    ← Std.ExtTreeSet.mem_iff_contains, h]
  by_cases hp : label.package = b.name
  · by_cases hnew : label.name = rule ∨ label.name ∈ seen
    · simp [hp, hnew, settle]
    · by_cases hn : label.name ∈ b.names
      · simp [hp, hnew, hn, containsTarget, settle]
      · simp [hp, hnew, hn, containsTarget, settle]
  · simp [hp, settle]

/-- The outputs of a rule are refused if they cannot be claimed one after another.

**Proof sketch.** Induction on the outputs that are still to come. An output that passes counts as
seen from then on, as one that is claimed counts as taken. -/
lemma checks_outputs (rule : String) (labels : List Label) {seen names : NameTable}
    (h : ∀ n, n ∈ names ↔ (n = rule ∨ n ∈ seen) ∨ n ∈ b.names) :
    Checks (checkOutputs rule seen labels) b
      (labels.foldlM (claim b.name .outputFile) names) := by
  induction labels generalizing seen names with
  | nil => rfl
  | cons label labels ih =>
    rw [Checks, checkOutputs, (checks_output b rule label h).run_bind, List.foldlM_cons, settle_bind]
    refine settle_congr fun names' hclaim => ?_
    obtain ⟨-, rfl⟩ := claim_eq_ok_iff.1 hclaim
    refine ih fun n => ?_
    simp [h, or_assoc, or_left_comm]

/-! ## Additions -/

/-- The outputs of a rule are written in order, each with its name. -/
lemma run_forM_registerOutput (files : List OutputFile) :
    (forM files registerOutput).run b = .ok () { b with
      names := b.names.insertMany (files.map (·.label.name))
      outputFiles := b.outputFiles ++ files } := by
  induction files generalizing b with
  | nil => simp
  | cons file files ih =>
    have hone : (registerOutput file).run b = .ok () { b with
        names := b.names.insert file.label.name
        outputFiles := b.outputFiles.push file } := rfl
    rw [List.forM_cons, EStateM.run_bind, hone]
    dsimp only
    rw [ih]
    simp [Std.ExtTreeSet.insertMany_cons]

/-- Adding to a copy decides about the label and about the outputs, and then writes. -/
lemma settle_add (t : Target) :
    settle b (b.add t) (.ok ()) = settle b (claim b.name t.kind b.names t.label) fun names =>
      settle b (t.outputs.foldlM (claim b.name .outputFile) names) fun names' =>
        .ok () { b.record t with names := names' } := by
  simp only [add, claimAll, settle_bind]
  rfl

/-- A rule is added in place as it is added to a copy.

**Proof sketch.** What the checks refuse is what cannot be claimed from the table. The outputs are
claimed from a table that has the name of the rule, next to which they are looked at. -/
lemma run_insertRule (r : Rule) :
    (insertRule r).run b = settle b (b.add (.rule r)) (.ok ()) := by
  rw [settle_add, insertRule, (checks_label b .rule r.label).run_bind]
  refine settle_congr fun names hclaim => ?_
  obtain ⟨-, rfl⟩ := claim_eq_ok_iff.1 hclaim
  have hnames : ∀ n, n ∈ b.names.insert r.label.name ↔
      (n = r.name ∨ n ∈ (∅ : NameTable)) ∨ n ∈ b.names := by
    intro n
    simp [Rule.name, eq_comm (a := n)]
  rw [(checks_outputs b r.name r.outputs hnames).run_bind]
  refine settle_congr fun names' hclaims => ?_
  obtain ⟨-, rfl⟩ := foldlM_claim_eq_ok_iff.1 hclaims
  have htake : (takeName r.name).run b = .ok () { b with names := b.names.insert r.name } := rfl
  have hlabels : r.outputFiles.map (·.label.name) = r.outputs.map Label.name := by
    simp [Rule.outputFiles, Function.comp_def]
  rw [EStateM.run_bind, htake]
  dsimp only
  rw [EStateM.run_bind, run_forM_registerOutput, hlabels]
  rfl

/-- Adding a target in place comes to the same as adding it to a copy: either the copy takes the
place of the builder, or the builder stays as it is. -/
theorem run_insert (t : Target) : (insert t).run b = settle b (b.add t) (.ok ()) := by
  cases t with
  | inputFile f =>
    rw [settle_add, insert, insertInputFile, (checks_label b .inputFile f.label).run_bind]
    refine settle_congr fun names hclaim => ?_
    obtain ⟨-, rfl⟩ := claim_eq_ok_iff.1 hclaim
    rfl
  | packageGroup g =>
    rw [settle_add, insert, insertPackageGroup, (checks_label b .packageGroup g.label).run_bind]
    refine settle_congr fun names hclaim => ?_
    obtain ⟨-, rfl⟩ := claim_eq_ok_iff.1 hclaim
    rfl
  | rule r => exact run_insertRule b r

/-! ## Attempts -/

variable {b}

/-- An attempt for which there is room enters the target. -/
lemma run_insert_of_vacant {t : Target} (h : Vacant b.name b.names t.labels) :
    (insert t).run b = .ok () (b.enter t) := by
  rw [run_insert, add_eq_ok_iff.2 ⟨h, rfl⟩]
  rfl

/-- An attempt for which there is no room is refused and changes nothing. -/
lemma exists_run_insert_of_not_vacant {t : Target} (h : ¬ Vacant b.name b.names t.labels) :
    ∃ e, (insert t).run b = .error e b := by
  rw [run_insert]
  cases hadd : b.add t with
  | error e => exact ⟨e, rfl⟩
  | ok b' => exact absurd (add_eq_ok_iff.1 hadd).1 h

lemma accepts_iff {t : Target} : b.accepts t = true ↔ Vacant b.name b.names t.labels := by
  by_cases h : Vacant b.name b.names t.labels
  · simp [accepts, run_insert_of_vacant h, h]
  · obtain ⟨e, he⟩ := exists_run_insert_of_not_vacant h
    simp [accepts, he, h]

/-- The targets of a sequence that are not refused are added one after another without a refusal,
and lead to the same builder.

**Proof sketch.** Induction on the attempts, for all builders. A refused attempt leaves the builder
from which the others go on. -/
lemma run_forM_accepted (b : Builder) (ts : List Target) :
    (forM (b.accepted ts) insert).run b = .ok () (ts.foldl tryInsert b) := by
  induction ts generalizing b with
  | nil => rfl
  | cons t ts ih =>
    rw [accepted, List.foldl_cons]
    by_cases h : Vacant b.name b.names t.labels
    · have htry : b.tryInsert t = b.enter t := by
        simp [tryInsert, run_insert_of_vacant h]
      rw [if_pos (accepts_iff.2 h), List.forM_cons, EStateM.run_bind, run_insert_of_vacant h, htry]
      exact ih _
    · obtain ⟨e, he⟩ := exists_run_insert_of_not_vacant h
      have htry : b.tryInsert t = b := by
        simp [tryInsert, he]
      rw [if_neg (mt accepts_iff.1 h), htry]
      exact ih b

/-- What a rule needs in order to be added. -/
structure Admits (b : Builder) (r : Rule) : Prop where
  /-- The rule lies in the package. -/
  owned : r.label.package = b.name
  /-- Its outputs lie in the package. -/
  outputs_owned : ∀ l ∈ r.outputs, l.package = b.name
  /-- Its name is free. -/
  free : b.containsTarget r.name = false
  /-- No two outputs have the same name. -/
  outputs_nodup : (r.outputs.map Label.name).Nodup
  /-- No output has the name of the rule. -/
  outputs_ne : ∀ l ∈ r.outputs, l.name ≠ r.name
  /-- The names of the outputs are free. -/
  outputs_free : ∀ l ∈ r.outputs, b.containsTarget l.name = false

lemma containsTarget_eq_false_iff {n : String} : b.containsTarget n = false ↔ n ∉ b.names := by
  rw [containsTarget, Std.ExtTreeSet.mem_iff_contains, Bool.not_eq_true]

/-- There is room for a rule exactly if it has what it needs. -/
lemma vacant_rule_iff {r : Rule} :
    Vacant b.name b.names (Target.rule r).labels ↔ b.Admits r := by
  have hne : r.name ∉ r.outputs.map Label.name ↔ ∀ l ∈ r.outputs, l.name ≠ r.name := by
    rw [List.mem_map]
    exact ⟨fun h l hl he => h ⟨l, hl, he⟩, fun h ⟨l, hl, he⟩ => h l hl he⟩
  constructor
  · rintro ⟨howned, hnodup, hfree⟩
    rw [Target.labels, List.forall_mem_cons] at howned hfree
    rw [Target.labels, List.map_cons, List.nodup_cons] at hnodup
    exact ⟨howned.1, howned.2, containsTarget_eq_false_iff.2 hfree.1, hnodup.2, hne.1 hnodup.1,
      fun l hl => containsTarget_eq_false_iff.2 (hfree.2 l hl)⟩
  · intro h
    refine ⟨?_, ?_, ?_⟩
    · rw [Target.labels, List.forall_mem_cons]
      exact ⟨h.owned, h.outputs_owned⟩
    · rw [Target.labels, List.map_cons, List.nodup_cons]
      exact ⟨hne.2 h.outputs_ne, h.outputs_nodup⟩
    · rw [Target.labels, List.forall_mem_cons]
      exact ⟨containsTarget_eq_false_iff.1 h.free,
        fun l hl => containsTarget_eq_false_iff.1 (h.outputs_free l hl)⟩

/-- There is room for a single label of the package whose name is free. -/
lemma vacant_singleton_iff {l : Label} :
    Vacant b.name b.names [l] ↔ l.package = b.name ∧ b.containsTarget l.name = false := by
  rw [Vacant.cons_iff, containsTarget_eq_false_iff]
  exact and_iff_left .nil

/-- Additions to a builder are atomic, whatever has been done to it before. A target is added
exactly if its labels lie in the package and their names are free and different. An attempt in place
either enters the whole target or is refused and leaves every part of the builder as it is, as an
addition to a copy does, and with the same error. In a sequence of attempts those that are not
refused, alone, are added without a refusal and lead to the same builder. -/
theorem insert_atomic (b : Builder) :
    (∀ f, b.accepts (.inputFile f) = true ↔
      f.label.package = b.name ∧ b.containsTarget f.name = false) ∧
    (∀ g, b.accepts (.packageGroup g) = true ↔
      g.label.package = b.name ∧ b.containsTarget g.name = false) ∧
    (∀ r, b.accepts (.rule r) = true ↔ b.Admits r) ∧
    (∀ t, b.add t = .ok (b.enter t) ∧ (insert t).run b = .ok () (b.enter t) ∨
      ∃ e, b.add t = .error e ∧ (insert t).run b = .error e b) ∧
    ∀ ts, (forM (b.accepted ts) insert).run b = .ok () (ts.foldl tryInsert b) := by
  refine ⟨fun f => ?_, fun g => ?_, fun r => ?_, fun t => ?_, run_forM_accepted b⟩
  · rw [accepts_iff]
    exact vacant_singleton_iff
  · rw [accepts_iff]
    exact vacant_singleton_iff
  · rw [accepts_iff, vacant_rule_iff]
  · rw [run_insert]
    cases hadd : b.add t with
    | ok b' =>
      obtain ⟨-, rfl⟩ := add_eq_ok_iff.1 hadd
      exact .inl ⟨rfl, rfl⟩
    | error e => exact .inr ⟨e, rfl, rfl⟩

end BuildPackage.Builder
