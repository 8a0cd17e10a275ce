import BuildPackage.Package.Inquiry
import BuildPackage.Proofs.Outcome

set_option relaxedAutoImplicit false
set_option autoImplicit false

/-!
# Inquiries in a workspace

In a given workspace an inquiry is a reading like any other, except that it also leaves a list of
the questions that it asked. The outcome of a composed inquiry is composed in the same way, and what
it asks is what its parts ask, up to the first that fails.

## Main definitions

* `BuildPackage.Inquiry.outcome` — what comes of an inquiry.
* `BuildPackage.Inquiry.Agree` — inquiries that come to related results after the same questions.
* `BuildPackage.Inquiry.AsksOnly` — an inquiry whose questions are all of one sort.

## Main results

* `BuildPackage.Inquiry.inWorkspace_bind` — a sequence of inquiries.
* `BuildPackage.Inquiry.outcome_mapM` — an inquiry for each element of a list.
* `BuildPackage.Inquiry.Agree.bind` — sequences of inquiries that agree.
* `BuildPackage.Inquiry.AsksOnly.bind`, `BuildPackage.Inquiry.AsksOnly.mapM` — the sort of the
  questions of a composed inquiry.
-/

namespace BuildPackage.Inquiry

variable {α β : Type} {w : Workspace}

/-! ## Outcomes -/

/-- What comes of an inquiry in a workspace. -/
def outcome (w : Workspace) (i : Inquiry α) : Except DecodeError α := (i.inWorkspace w).2

lemma inWorkspace_pure (a : α) : (pure a : Inquiry α).inWorkspace w = ([], .ok a) := rfl

lemma inWorkspace_ofExcept (e : Except DecodeError α) : (ofExcept e).inWorkspace w = ([], e) := rfl

/-- One question is asked for a build file. -/
lemma inWorkspace_buildFile (package : String) (missing : DecodeError) :
    (buildFile package missing).inWorkspace w =
      ([.buildFile package], (w.buildFile? package).elim (.error missing) .ok) := by
  simp only [inWorkspace, buildFile, ExceptT.run_mk, Dialogue.run_ask, Workspace.answer]
  cases w.buildFile? package <;> rfl

/-- A survey cannot fail. -/
lemma inWorkspace_liftM (s : Survey α) :
    (liftM s : Inquiry α).inWorkspace w = ((s.run w.answer).1, .ok (s.run w.answer).2) := by
  have hrun : (liftM s : Inquiry α).inWorkspace w =
      (s >>= fun a => pure (Except.ok a) : Survey (Except DecodeError α)).run w.answer := rfl
  rw [hrun, Dialogue.run_bind]
  simp

/-- A sequence goes on with its second part exactly if the first one succeeds, and asks the
questions of both then. -/
theorem inWorkspace_bind (i : Inquiry α) (f : α → Inquiry β) :
    (i >>= f).inWorkspace w =
      match i.inWorkspace w with
      | (asked, .ok a) => (asked ++ ((f a).inWorkspace w).1, ((f a).inWorkspace w).2)
      | (asked, .error e) => (asked, .error e) := by
  unfold inWorkspace
  rw [Dialogue.run_bind_exceptT]
  obtain ⟨asked, _ | a⟩ := i.run.run w.answer <;> rfl

/-- A function of the result changes nothing about the questions. -/
lemma inWorkspace_map (f : α → β) (i : Inquiry α) :
    (f <$> i).inWorkspace w = ((i.inWorkspace w).1, f <$> (i.inWorkspace w).2) := by
  rw [map_eq_pure_bind, inWorkspace_bind]
  obtain ⟨asked, _ | a⟩ := i.inWorkspace w
  · rfl
  · simp only [inWorkspace_pure, List.append_nil]
    rfl

lemma ofExcept_map (f : α → β) (e : Except DecodeError α) :
    ofExcept (f <$> e) = f <$> ofExcept e := by
  cases e <;> rfl

@[simp] lemma outcome_pure (a : α) : (pure a : Inquiry α).outcome w = .ok a := rfl

@[simp] lemma outcome_ofExcept (e : Except DecodeError α) : (ofExcept e).outcome w = e := rfl

/-- A build file is found exactly if the workspace knows it. -/
@[simp] lemma outcome_buildFile_eq_ok_iff {package : String} {missing : DecodeError} {path : Path} :
    (buildFile package missing).outcome w = .ok path ↔ w.buildFile? package = some path := by
  rw [outcome, inWorkspace_buildFile]
  cases w.buildFile? package <;> simp

@[simp] lemma outcome_bind (i : Inquiry α) (f : α → Inquiry β) :
    (i >>= f).outcome w = i.outcome w >>= fun a => (f a).outcome w := by
  unfold outcome
  rw [inWorkspace_bind]
  obtain ⟨asked, _ | a⟩ := i.inWorkspace w
  · rfl
  · rfl

/-- The outcome of an inquiry for each element is that of reading each element.

**Proof sketch.** Induction on the list; the head is a sequence with the rest. -/
@[simp] theorem outcome_mapM (f : α → Inquiry β) (xs : List α) :
    (xs.mapM f).outcome w = xs.mapM fun x => (f x).outcome w := by
  induction xs with
  | nil => rfl
  | cons x xs ih => simp only [List.mapM_cons, outcome_bind, outcome_pure, ih]; rfl

/-! ## Agreement -/

/-- Two inquiries ask the same, and either both fail with the same error or both succeed with
related results. -/
structure Agree (R : α → β → Prop) (w : Workspace) (i : Inquiry α) (i' : Inquiry β) : Prop where
  /-- The questions are the same. -/
  asked : (i'.inWorkspace w).1 = (i.inWorkspace w).1
  /-- The outcomes agree. -/
  outcome : Outcome.Agree R (i.outcome w) (i'.outcome w)

/-- Inquiries that become the same under a function of the result agree up to this function. -/
lemma agree_of_map_eq {f : α → β} {i i' : Inquiry α} (h : f <$> i' = f <$> i) :
    Agree (fun a b => f b = f a) w i i' := by
  have hw := congrArg (inWorkspace w) h
  rw [inWorkspace_map, inWorkspace_map, Prod.mk.injEq] at hw
  exact ⟨hw.1, Outcome.agree_of_map_eq hw.2⟩

lemma Agree.imp {R S : α → β → Prop} (hRS : ∀ a b, R a b → S a b) {i : Inquiry α}
    {i' : Inquiry β} (h : Agree R w i i') : Agree S w i i' :=
  ⟨h.asked, h.outcome.imp hRS⟩

lemma Agree.pure {R : α → β → Prop} {a : α} {b : β} (h : R a b) :
    Agree R w (pure a) (pure b) := ⟨rfl, .ok h⟩

/-- An inquiry agrees with itself. -/
lemma agree_self (i : Inquiry α) : Agree (fun a b => b = a) w i i := agree_of_map_eq (f := id) rfl

/-- Sequences agree if their parts do.

**Proof sketch.** The first parts fail alike, and then nothing else is asked, or they succeed with
related results, from which the second parts go on. -/
theorem Agree.bind {γ δ : Type} {R : α → β → Prop} {S : γ → δ → Prop} {i : Inquiry α}
    {i' : Inquiry β} {f : α → Inquiry γ} {f' : β → Inquiry δ} (h : Agree R w i i')
    (hf : ∀ a b, R a b → Agree S w (f a) (f' b)) : Agree S w (i >>= f) (i' >>= f') := by
  constructor
  · have hasked := h.asked
    have houtcome := h.outcome
    rw [inWorkspace_bind, inWorkspace_bind]
    unfold Inquiry.outcome at houtcome
    generalize i.inWorkspace w = r, i'.inWorkspace w = r' at hasked houtcome
    obtain ⟨asked, x⟩ := r
    obtain ⟨asked', y⟩ := r'
    obtain rfl : asked' = asked := hasked
    cases houtcome with
    | error e => rfl
    | ok hab => exact congrArg (asked' ++ ·) (hf _ _ hab).asked
  · rw [outcome_bind, outcome_bind]
    exact h.outcome.bind fun a b hab => (hf a b hab).outcome

/-! ## Questions -/

/-- All questions that an inquiry asks in a workspace are of one sort. -/
def AsksOnly (P : Question → Prop) (w : Workspace) (i : Inquiry α) : Prop :=
  ∀ q ∈ (i.inWorkspace w).1, P q

variable {P : Question → Prop}

lemma AsksOnly.pure (a : α) : AsksOnly P w (pure a) := by
  intro q hq
  cases hq

lemma AsksOnly.ofExcept (e : Except DecodeError α) : AsksOnly P w (ofExcept e) := by
  intro q hq
  cases hq

lemma AsksOnly.buildFile {package : String} (h : P (.buildFile package)) (missing : DecodeError) :
    AsksOnly P w (buildFile package missing) := by
  intro q hq
  rw [inWorkspace_buildFile] at hq
  rwa [List.mem_singleton.1 hq]

/-- The second part of a sequence only matters for the result of the first one. -/
lemma AsksOnly.bind_outcome {i : Inquiry α} {f : α → Inquiry β} (hi : AsksOnly P w i)
    (hf : ∀ a, i.outcome w = .ok a → AsksOnly P w (f a)) : AsksOnly P w (i >>= f) := by
  intro q hq
  rw [inWorkspace_bind] at hq
  unfold AsksOnly at hi
  unfold Inquiry.outcome at hf
  generalize i.inWorkspace w = r at hi hf hq
  obtain ⟨asked, _ | a⟩ := r
  · exact hi q hq
  · rcases List.mem_append.1 hq with h | h
    · exact hi q h
    · exact hf a rfl q h

lemma AsksOnly.bind {i : Inquiry α} {f : α → Inquiry β} (hi : AsksOnly P w i)
    (hf : ∀ a, AsksOnly P w (f a)) : AsksOnly P w (i >>= f) :=
  hi.bind_outcome fun a _ => hf a

/-- A sequence asks what its first part asks. -/
lemma mem_inWorkspace_bind {i : Inquiry α} {q : Question} (h : q ∈ (i.inWorkspace w).1)
    (f : α → Inquiry β) : q ∈ ((i >>= f).inWorkspace w).1 := by
  rw [inWorkspace_bind]
  generalize i.inWorkspace w = r at h
  obtain ⟨asked, _ | a⟩ := r
  · exact h
  · exact List.mem_append_left _ h

lemma AsksOnly.mapM {f : α → Inquiry β} (hf : ∀ a, AsksOnly P w (f a)) (xs : List α) :
    AsksOnly P w (xs.mapM f) := by
  induction xs with
  | nil => exact .pure []
  | cons x xs ih =>
    rw [List.mapM_cons]
    exact (hf x).bind fun y => ih.bind fun ys => .pure (y :: ys)

end BuildPackage.Inquiry
