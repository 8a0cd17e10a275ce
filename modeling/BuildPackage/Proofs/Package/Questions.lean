import BuildPackage.Proofs.Label.Grammar
import BuildPackage.Proofs.Package.Boundary
import BuildPackage.Proofs.Path

set_option relaxedAutoImplicit false
set_option autoImplicit false

/-!
# What a message asks about

Decoding a message first asks for the build file of the name that the message gives itself, whatever
that name is. Every other name that it asks about comes from a label, and so it is relative and never
goes up: the packages of the labels that are included, and the directories that the names of file
targets pass through. A package with file targets has the name of their labels.

## Main definitions

* `BuildPackage.Question.name` — what a question is about.
* `BuildPackage.Wire.Package.MayAsk` — the questions of a message.

## Main results

* `BuildPackage.Label.descends_of_mem_directories` — the directories of a label lie below.
* `BuildPackage.mem_of_mem_run_patrol` — the search for subpackages asks for directories of targets.
* `BuildPackage.CheckedPackage.asksOnly_ofWire` — what decoding a message asks about.
-/

namespace BuildPackage

variable {w : Workspace}

/-- What a question is about. -/
def Question.name : Question → String
  | buildFile package => package
  | isPackage directory => directory

/-! ## Names from labels -/

namespace Label

lemma descends_package (l : Label) : Descends l.package := by
  by_cases h : l.package = ""
  · rw [h]
    exact ⟨by decide, by decide⟩
  · exact .of_segments fun s hs =>
      ⟨(l.segments_package h s hs).ne_nil, (l.segments_package h s hs).ne_dots⟩

/-- The directories that the name of a label passes through lie below.

**Proof sketch.** The segments of such a directory are segments of the package and of the name. -/
theorem descends_of_mem_directories (l : Label) {d : String}
    (h : d ∈ directories l.package l.name) : Descends d := by
  obtain ⟨n, hn, rfl⟩ := List.mem_map.1 h
  set segments := Segments.split l.name.toList with hsegments
  have htake : Segments.split (Segments.join (segments.take (n + 1))) = segments.take (n + 1) := by
    refine Segments.split_join ?_ fun s hs =>
      Segments.slash_notMem_of_mem_split (List.mem_of_mem_take hs)
    have hne : segments ≠ [] := Segments.split_ne_nil _
    simpa using hne
  have hname : ∀ s ∈ segments.take (n + 1), s ≠ [] ∧ s ≠ ['.', '.'] := by
    intro s hs
    have hsegment := l.segments_name s (List.mem_of_mem_take hs)
    exact ⟨hsegment.ne_nil, hsegment.ne_dots⟩
  apply Descends.of_segments
  unfold directoryBelow
  split_ifs with hempty
  · rwa [String.toList_ofList, htake]
  · have hbelow : (l.package ++ "/" ++ String.ofList (Segments.join (segments.take (n + 1)))).toList =
        l.package.toList ++ '/' :: Segments.join (segments.take (n + 1)) := by
      simp
    rw [hbelow, Segments.split_append, htake]
    intro s hs
    rcases List.mem_append.1 hs with hs | hs
    · have hsegment := l.segments_package (fun he => hempty (String.isEmpty_iff.2 he)) s hs
      exact ⟨hsegment.ne_nil, hsegment.ne_dots⟩
    · exact hname s hs

end Label

/-! ## Searches -/

/-- Looking at some directories asks for these only. -/
lemma mem_of_mem_run_passThrough {ds : List String} {q : Question}
    (h : q ∈ ((passThrough ds).run w.answer).1) : ∃ d ∈ ds, q = .isPackage d := by
  induction ds with
  | nil => cases h
  | cons d rest ih =>
    simp only [passThrough, Dialogue.run_ask, List.mem_cons] at h
    rcases h with rfl | h
    · exact ⟨d, List.mem_cons_self, rfl⟩
    · cases ha : w.answer (.isPackage d) with
      | none =>
        rw [ha] at h
        cases h
      | some found =>
        rw [ha] at h
        cases found with
        | true => cases h
        | false =>
          obtain ⟨d', hd', hq⟩ := ih h
          exact ⟨d', List.mem_cons_of_mem _ hd', hq⟩

/-- The search for subpackages asks for the directories that the names of files pass through. -/
theorem mem_of_mem_run_patrol {package : String} {files : List OutputFile} {q : Question}
    (h : q ∈ ((patrol package files).run w.answer).1) :
    ∃ f ∈ files, ∃ d ∈ directories package f.label.name, q = .isPackage d := by
  induction files with
  | nil => cases h
  | cons f rest ih =>
    rw [patrol, Dialogue.run_bind, List.mem_append] at h
    rcases h with h | h
    · exact ⟨f, List.mem_cons_self, mem_of_mem_run_passThrough h⟩
    · have hrest : q ∈ ((patrol package rest).run w.answer).1 := by
        cases hp : ((passThrough (directories package f.label.name)).run w.answer).2 with
        | clear => rwa [hp] at h
        | crosses d =>
          simpa only [hp, Dialogue.run_bind, Dialogue.run_pure, List.append_nil] using h
        | interrupted => simp [hp] at h
      obtain ⟨f', hf', hd⟩ := ih hrest
      exact ⟨f', List.mem_cons_of_mem _ hf', hd⟩

/-! ## Messages -/

/-- The questions of a message: one for its own build file, and others about names that lead below.
-/
def Wire.Package.MayAsk (m : Wire.Package) (q : Question) : Prop :=
  q = .buildFile m.name ∨ Descends q.name

variable {registry : Registry} {m : Wire.Package} {b : Builder} {log : EventLog}

/-- The file targets of a package have its name in their labels. -/
lemma owned_of_outcome_assemble (h : (assemble registry m).outcome w = .ok (b, log)) :
    ∀ f ∈ b.files, f.label.package = b.name := by
  obtain ⟨s, -, hb, -⟩ := outcome_assemble_eq_ok_iff.1 h
  obtain ⟨files, groups, rules, -, -, -, hvacant, rfl⟩ := Builder.ofWire_eq_ok_iff.1 hb
  intro f hf
  refine hvacant.owned f.label ?_
  simp only [Target.ofKinds, List.flatMap_append, List.mem_append, List.mem_flatMap, List.mem_map]
  simp only [Builder.files, Builder.ofTargets, List.mem_append, List.mem_map,
    List.mem_flatMap] at hf
  rcases hf with ⟨x, hx, rfl⟩ | ⟨r, hr, hf⟩
  · exact .inl (.inl ⟨_, ⟨x, hx, rfl⟩, List.mem_cons_self⟩)
  · obtain ⟨l, hl, rfl⟩ := List.mem_map.1 hf
    exact .inr ⟨_, ⟨r, hr, rfl⟩, List.mem_cons_of_mem _ hl⟩

lemma asksOnly_assemble_mayAsk : (assemble registry m).AsksOnly m.MayAsk w :=
  asksOnly_assemble_of (.inl rfl) fun l => .inr l.descends_package

lemma Package.asksOnly_ofWire : (Package.ofWire registry m).AsksOnly m.MayAsk w := by
  rw [Package.ofWire_eq]
  exact asksOnly_assemble_mayAsk.bind fun _ => .pure _

/-- What decoding a message asks about: the name that the message gives itself, and names that lead
below.

**Proof sketch.** The search for subpackages asks for directories of file targets. If there is a
file target, its label has the name of the package. -/
theorem CheckedPackage.asksOnly_ofWire : (CheckedPackage.ofWire registry m).AsksOnly m.MayAsk w := by
  rw [CheckedPackage.ofWire_eq]
  refine asksOnly_assemble_mayAsk.bind_outcome ?_
  rintro ⟨b, log⟩ hb q hq
  rw [b.inWorkspace_finishChecked] at hq
  obtain ⟨f, hf, d, hd, rfl⟩ := mem_of_mem_run_patrol hq
  rw [← owned_of_outcome_assemble hb f hf] at hd
  exact .inr (f.label.descends_of_mem_directories hd)

/-- Decoding a message asks for the build file of the name that the message gives itself. -/
lemma mem_asked_assemble : .buildFile m.name ∈ ((assemble registry m).inWorkspace w).1 := by
  have hfirst : .buildFile m.name ∈
      ((Inquiry.buildFile m.name (.buildFileNotFound m.name)).inWorkspace w).1 := by
    rw [Inquiry.inWorkspace_buildFile]
    exact List.mem_singleton_self _
  unfold assemble Setting.ofWire
  exact Inquiry.mem_inWorkspace_bind (Inquiry.mem_inWorkspace_bind hfirst _) _

/-- The build file of a message is the one that the workspace knows under its name. -/
lemma buildFile_of_outcome_assemble (h : (assemble registry m).outcome w = .ok (b, log)) :
    w.buildFile? m.name = some b.buildFile := by
  obtain ⟨s, hs, hb, -⟩ := outcome_assemble_eq_ok_iff.1 h
  obtain ⟨files, groups, rules, -, -, -, -, rfl⟩ := Builder.ofWire_eq_ok_iff.1 hb
  exact (Setting.outcome_eq_ok_iff.1 hs).1

lemma Package.buildFile_of_outcome {d : Decoded Package}
    (h : (Package.ofWire registry m).outcome w = .ok d) :
    w.buildFile? m.name = some d.package.buildFile := by
  obtain ⟨b, hb, hbuild⟩ := Package.outcome_eq_ok_iff.1 h
  rw [buildFile_of_outcome_assemble hb, ← hbuild]
  rfl

lemma CheckedPackage.buildFile_of_outcome {d : Decoded CheckedPackage}
    (h : (CheckedPackage.ofWire registry m).outcome w = .ok d) :
    w.buildFile? m.name = some d.package.package.buildFile := by
  obtain ⟨b, log, hb, -, rfl⟩ := CheckedPackage.outcome_eq_ok_iff.1 h
  exact buildFile_of_outcome_assemble hb

end BuildPackage
