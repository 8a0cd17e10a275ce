import BuildPackage.Proofs.Package.Assembly

set_option relaxedAutoImplicit false
set_option autoImplicit false

/-!
# Checked packages and plain ones

Looking for targets that reach into subpackages comes after everything else. So both ways of
decoding fail alike, and where the plain way succeeds, the checked one adds crossings with their
reports, unless the search is interrupted.

## Main definitions

* `BuildPackage.Searched` — the questions of a search for subpackages.
* `BuildPackage.Decoded.Extends` — a package with crossings and their reports added.
* `BuildPackage.CheckedPackage.Refines` — how the checked way of decoding follows the plain one.

## Main results

* `BuildPackage.searched_patrol` — a search is interrupted exactly if one of its questions is.
* `BuildPackage.CheckedPackage.refines_ofWire` — the checked way of decoding follows the plain one.
-/

namespace BuildPackage

variable {w : Workspace}

/-! ## Searches -/

/-- Some question about a directory goes without an answer. -/
def Interrupted (w : Workspace) (asked : List Question) : Prop :=
  ∃ directory, .isPackage directory ∈ asked ∧ w.isPackage? directory = none

/-- The questions of a search for subpackages, and whether it was interrupted. -/
structure Searched (w : Workspace) (asked : List Question) (interrupted : Prop) : Prop where
  /-- Only directories are asked for. -/
  only : ∀ q ∈ asked, ∃ directory, q = .isPackage directory
  /-- The search is interrupted exactly if some question goes without an answer. -/
  interrupted_iff : interrupted ↔ Interrupted w asked

lemma interrupted_append_iff {asked asked' : List Question} :
    Interrupted w (asked ++ asked') ↔ Interrupted w asked ∨ Interrupted w asked' := by
  simp only [Interrupted, List.mem_append, or_and_right, exists_or]

namespace Searched

variable {asked asked' : List Question} {interrupted : Prop}

lemma nil : Searched w [] False := ⟨by simp, by simp [Interrupted]⟩

lemma singleton (directory : String) :
    Searched w [.isPackage directory] (w.isPackage? directory = none) :=
  ⟨by simp, by simp [Interrupted]⟩

/-- A search that goes on has not been interrupted before. -/
lemma append (h : Searched w asked False) (h' : Searched w asked' interrupted) :
    Searched w (asked ++ asked') interrupted := by
  refine ⟨fun q hq => ?_, ?_⟩
  · rcases List.mem_append.1 hq with hq | hq
    · exact h.only q hq
    · exact h'.only q hq
  · rw [interrupted_append_iff, ← h.interrupted_iff, false_or, h'.interrupted_iff]

lemma congr {interrupted' : Prop} (h : Searched w asked interrupted)
    (hi : interrupted ↔ interrupted') : Searched w asked interrupted' :=
  ⟨h.only, hi.symm.trans h.interrupted_iff⟩

end Searched

/-- Looking at the directories of one target is a search.

**Proof sketch.** Induction on the directories: the search goes on only after an answer that the
directory is no package. -/
lemma searched_passThrough (ds : List String) :
    Searched w ((passThrough ds).run w.answer).1
      (((passThrough ds).run w.answer).2 = .interrupted) := by
  induction ds with
  | nil => exact Searched.nil.congr (by simp [passThrough])
  | cons d rest ih =>
    have hd := Searched.singleton (w := w) d
    simp only [passThrough, Dialogue.run_ask, Workspace.answer]
    rcases ha : w.isPackage? d with _ | _ | _
    · exact hd.congr (by simp [ha])
    · exact (hd.congr (by simp [ha])).append ih
    · exact hd.congr (by simp [ha])

/-- Looking at the files of a package is a search.

**Proof sketch.** Induction on the files. The search goes on to the next file unless it is
interrupted at this one, whether or not this one crosses a boundary. -/
theorem searched_patrol (package : String) (files : List OutputFile) :
    Searched w ((patrol package files).run w.answer).1
      (((patrol package files).run w.answer).2.interrupted = true) := by
  induction files with
  | nil => exact Searched.nil.congr (by simp [patrol])
  | cons f rest ih =>
    have hf := searched_passThrough (w := w) (directories package f.label.name)
    simp only [patrol, Dialogue.run_bind]
    rcases hp : ((passThrough (directories package f.label.name)).run w.answer).2 with _ | d | _
    · rw [hp] at hf
      exact (hf.congr (by simp)).append ih
    · rw [hp] at hf
      simp only [Dialogue.run_bind, Dialogue.run_pure, List.append_nil]
      exact (hf.congr (by simp)).append ih
    · rw [hp] at hf
      simp only [Dialogue.run_pure, List.append_nil]
      exact hf.congr (by simp)

/-- Where no directory is a package, nothing is found. -/
lemma run_patrol_of_forall_not (h : ∀ directory, w.isPackage? directory = some false)
    (package : String) (files : List OutputFile) :
    ((patrol package files).run w.answer).2 = ⟨[], false⟩ := by
  have hclear : ∀ ds, ((passThrough ds).run w.answer).2 = .clear := by
    intro ds
    induction ds with
    | nil => rfl
    | cons d rest ih =>
      simp only [passThrough, Dialogue.run_ask, Workspace.answer]
      rw [h d]
      exact ih
  induction files with
  | nil => rfl
  | cons f rest ih => simp [patrol, hclear, ih]

/-! ## Refinement -/

/-- A package with crossings added: each of them is reported as an error behind the events, and the
package contains errors if there is one. -/
structure Decoded.Extends (d : Decoded Package) (c : Decoded CheckedPackage) : Prop where
  /-- The package differs only in whether it contains errors. -/
  package : c.package.package =
    { d.package with
      containsErrors := d.package.containsErrors || !c.package.crossings.isEmpty }
  /-- There is one report for each crossing, in order, and all of them follow the events. -/
  events : ∃ reports, c.events = d.events.append reports ∧
    List.Forall₂ (fun crossing e => e.kind = .error ∧ ∃ location, e = crossing.event location)
      c.package.crossings reports

/-- The checked way of decoding follows the plain one: what each of them asks and what comes of it.
-/
structure CheckedPackage.Refines (w : Workspace)
    (plain : List Question × Except DecodeError (Decoded Package))
    (checked : List Question × Except DecodeError (Decoded CheckedPackage)) : Prop where
  /-- The plain way asks for build files only. -/
  only : ∀ q ∈ plain.1, ∃ package, q = .buildFile package
  /-- Where the plain way fails, the checked one fails alike and asks nothing else. -/
  failure : ∀ e, plain.2 = .error e → checked = (plain.1, .error e)
  /-- Where the plain way succeeds, the checked one goes on with a search. It fails if some question
  of the search goes without an answer, and adds crossings otherwise. -/
  success : ∀ d, plain.2 = .ok d → ∃ searched, checked.1 = plain.1 ++ searched ∧
    (∀ q ∈ searched, ∃ directory, q = .isPackage directory) ∧
    ((Interrupted w searched ∧ checked.2 = .error .interrupted) ∨
      (¬ Interrupted w searched ∧ ∃ c, checked.2 = .ok c ∧ d.Extends c))
  /-- Where no directory is a package, nothing is added. -/
  quiet : (∀ directory, w.isPackage? directory = some false) →
    ∀ d, plain.2 = .ok d → checked.2 = .ok ⟨⟨d.package, []⟩, d.events⟩

variable {registry : Registry} {m : Wire.Package}

/-- Assembling asks for the build file of the message and for those of labels. -/
lemma asksOnly_assemble_of {P : Question → Prop} (hname : P (.buildFile m.name))
    (hlabel : ∀ l : Label, P (.buildFile l.package)) : (assemble registry m).AsksOnly P w := by
  have hsub : ∀ text, (Subinclude.ofWire text).AsksOnly P w := by
    intro text
    unfold Subinclude.ofWire
    exact (Inquiry.AsksOnly.ofExcept _).bind fun label =>
      (Inquiry.AsksOnly.buildFile (hlabel label) _).bind fun _ => .pure _
  have hset : (Setting.ofWire m).AsksOnly P w := by
    unfold Setting.ofWire
    exact (Inquiry.AsksOnly.buildFile hname _).bind fun _ =>
      (Inquiry.AsksOnly.ofExcept _).bind fun _ =>
        (Inquiry.AsksOnly.mapM hsub _).bind fun _ => .pure _
  unfold assemble
  exact hset.bind fun _ => (Inquiry.AsksOnly.ofExcept _).bind fun _ => .pure _

/-- Assembling asks for build files only. -/
lemma asksOnly_assemble (registry : Registry) (m : Wire.Package) :
    (assemble registry m).AsksOnly (fun q => ∃ package, q = .buildFile package) w :=
  asksOnly_assemble_of ⟨m.name, rfl⟩ fun l => ⟨l.package, rfl⟩

/-- Finishing a builder asks the questions of its patrol. It fails if the patrol is interrupted, and
reports what the patrol has found otherwise. -/
lemma Builder.inWorkspace_finishChecked (b : Builder) (log : EventLog) :
    (b.finishChecked log).inWorkspace w =
      let found := ((patrol b.name b.files).run w.answer).2
      (((patrol b.name b.files).run w.answer).1,
        if found.interrupted then .error .interrupted
        else .ok ⟨⟨{ b.build with
            containsErrors := b.containsErrors || !found.crossings.isEmpty },
          found.crossings.map Prod.fst⟩,
          log.append (found.crossings.map fun c => c.1.event c.2)⟩) := by
  simp only [finishChecked, Inquiry.inWorkspace_bind, Inquiry.inWorkspace_liftM, buildChecked,
    Dialogue.run_bind]
  split_ifs <;> simp [Inquiry.inWorkspace_ofExcept, Inquiry.inWorkspace_pure]

/-- The checked way succeeds with the finished builder of the message and what its patrol has found.
-/
lemma CheckedPackage.outcome_eq_ok_iff {d : Decoded CheckedPackage} :
    (CheckedPackage.ofWire registry m).outcome w = .ok d ↔
      ∃ b log, (assemble registry m).outcome w = .ok (b, log) ∧
        let found := ((patrol b.name b.files).run w.answer).2
        found.interrupted = false ∧
          ⟨⟨{ b.build with containsErrors := b.containsErrors || !found.crossings.isEmpty },
            found.crossings.map Prod.fst⟩,
            log.append (found.crossings.map fun c => c.1.event c.2)⟩ = d := by
  rw [CheckedPackage.ofWire_eq, Inquiry.outcome_bind, Outcome.bind_eq_ok_iff, Prod.exists]
  refine exists₂_congr fun b log => and_congr_right fun _ => ?_
  rw [Inquiry.outcome, b.inWorkspace_finishChecked]
  dsimp only
  split_ifs with hi <;> simp [hi]

/-- What holds of the package of every builder that is assembled holds of every package that is
decoded, in both ways, unless it is about errors in the build file. -/
lemma forall_decoded_of_assembled {P : Package → Prop}
    (herrors : ∀ p containsErrors, P p → P { p with containsErrors })
    (h : ∀ b log, (assemble registry m).outcome w = .ok (b, log) → P b.build) :
    (∀ d, (Package.ofWire registry m).outcome w = .ok d → P d.package) ∧
      ∀ c, (CheckedPackage.ofWire registry m).outcome w = .ok c → P c.package.package := by
  refine ⟨fun d hd => ?_, fun c hc => ?_⟩
  · obtain ⟨b, hb, hbuild⟩ := Package.outcome_eq_ok_iff.1 hd
    rw [← hbuild]
    exact h b _ hb
  · obtain ⟨b, log, hb, -, rfl⟩ := CheckedPackage.outcome_eq_ok_iff.1 hc
    exact herrors _ _ (h b log hb)

/-- The reports of some crossings, one for each. -/
lemma forall₂_event (crossings : List (Crossing × Location)) :
    List.Forall₂ (fun crossing e => e.kind = .error ∧ ∃ location, e = crossing.event location)
      (crossings.map Prod.fst) (crossings.map fun c => c.1.event c.2) := by
  rw [List.forall₂_map_left_iff, List.forall₂_map_right_iff, List.forall₂_same]
  exact fun c _ => ⟨rfl, c.2, rfl⟩

/-- In every workspace the checked way of decoding follows the plain one.

**Proof sketch.** Both assemble the same builder with the same events. If that fails, so do both. If
not, the plain way is done, and the checked one goes on with its patrol, which is a search
(`searched_patrol`) and decides what is added. -/
theorem CheckedPackage.refines_ofWire (registry : Registry) (w : Workspace) (m : Wire.Package) :
    CheckedPackage.Refines w ((Package.ofWire registry m).inWorkspace w)
      ((CheckedPackage.ofWire registry m).inWorkspace w) := by
  have honly : ∀ q ∈ ((assemble registry m).inWorkspace w).1, ∃ package, q = .buildFile package :=
    asksOnly_assemble registry m
  rw [Package.ofWire_eq, CheckedPackage.ofWire_eq, Inquiry.inWorkspace_bind,
    Inquiry.inWorkspace_bind]
  generalize (assemble registry m).inWorkspace w = r at honly
  obtain ⟨asked, e | ⟨b, log⟩⟩ := r
  · refine ⟨honly, ?_, ?_, ?_⟩
    · intro e' he
      obtain rfl := Except.error.inj he
      rfl
    · intro d hd
      cases hd
    · intro _ d hd
      cases hd
  · simp only [Inquiry.inWorkspace_pure, List.append_nil, b.inWorkspace_finishChecked]
    have hsearch := searched_patrol (w := w) b.name b.files
    refine ⟨honly, ?_, ?_, ?_⟩
    · intro e he
      cases he
    · intro d hd
      obtain rfl := Except.ok.inj hd
      refine ⟨_, rfl, hsearch.only, ?_⟩
      rw [← hsearch.interrupted_iff]
      by_cases hi : ((patrol b.name b.files).run w.answer).2.interrupted = true
      · exact .inl ⟨hi, if_pos hi⟩
      · refine .inr ⟨hi, _, if_neg hi, ?_, _, rfl, forall₂_event _⟩
        rw [List.isEmpty_map]
        rfl
    · intro hquiet d hd
      obtain rfl := Except.ok.inj hd
      rw [run_patrol_of_forall_not hquiet]
      simp [EventLog.append, Builder.build]

end BuildPackage
