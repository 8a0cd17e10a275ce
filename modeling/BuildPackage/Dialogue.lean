set_option relaxedAutoImplicit false
set_option autoImplicit false

/-!
# Dialogues

A computation that asks questions on its way to a value. What it asks next may depend on the answers
so far. The same dialogue can be held with a function that knows all answers, which also shows what
was asked, and with a world that has to be looked at.

## Main definitions

* `BuildPackage.Dialogue` — computations that ask questions.
* `BuildPackage.Dialogue.run` — the questions asked and the value, given all answers.
* `BuildPackage.Dialogue.runM` — the value, with answers from a monad.

## Main results

* `BuildPackage.Dialogue.run_bind` — a sequence asks the questions of its parts in order.
* `BuildPackage.Dialogue.run_bind_exceptT` — a sequence of dialogues that may fail.
* `BuildPackage.Dialogue.run_translate` — a dialogue whose questions are answered by other dialogues.
-/

namespace BuildPackage

/-- A computation of a value that asks questions. -/
inductive Dialogue (Q : Type) (A : Q → Type) (α : Type) where
  /-- The value is known. -/
  | done (value : α)
  /-- A question, and how to go on with its answer. -/
  | ask (question : Q) (next : A question → Dialogue Q A α)

namespace Dialogue

variable {Q : Type} {A : Q → Type} {α β : Type}

/-- One dialogue after another. -/
def bind : Dialogue Q A α → (α → Dialogue Q A β) → Dialogue Q A β
  | done a, f => f a
  | ask q next, f => ask q fun answer => (next answer).bind f

instance : Monad (Dialogue Q A) where
  pure := done
  bind := bind

/-- Asks one question. -/
def question (q : Q) : Dialogue Q A (A q) := ask q done

/-- The questions asked, in order, and the value, when every question has the given answer. -/
def run (answer : (q : Q) → A q) : Dialogue Q A α → List Q × α
  | done a => ([], a)
  | ask q next =>
    let (asked, a) := run answer (next (answer q))
    (q :: asked, a)

/-- Holds a dialogue with a monad that answers. -/
def runM {m : Type → Type} [Monad m] (answer : (q : Q) → m (A q)) : Dialogue Q A α → m α
  | done a => Pure.pure a
  | ask q next => do runM answer (next (← answer q))

/-- Answers the questions of a dialogue by other dialogues. -/
def translate {R : Type} {B : R → Type} (answer : (q : Q) → Dialogue R B (A q)) :
    Dialogue Q A α → Dialogue R B α
  | done a => done a
  | ask q next => (answer q).bind fun a => translate answer (next a)

@[simp] theorem run_done (answer : (q : Q) → A q) (a : α) :
    (done a : Dialogue Q A α).run answer = ([], a) := rfl

@[simp] theorem run_pure (answer : (q : Q) → A q) (a : α) :
    (pure a : Dialogue Q A α).run answer = ([], a) := rfl

@[simp] theorem run_ask (answer : (q : Q) → A q) (q : Q) (next : A q → Dialogue Q A α) :
    (ask q next).run answer =
      (q :: ((next (answer q)).run answer).1, ((next (answer q)).run answer).2) := rfl

/-- A sequence asks the questions of its first part and then those of the second. -/
@[simp] theorem run_bind (answer : (q : Q) → A q) (d : Dialogue Q A α)
    (f : α → Dialogue Q A β) :
    (d >>= f).run answer =
      ((d.run answer).1 ++ ((f (d.run answer).2).run answer).1,
        ((f (d.run answer).2).run answer).2) := by
  change (d.bind f).run answer = _
  induction d with
  | done a => rfl
  | ask q next ih => simp [bind, ih]

theorem bind_done (d : Dialogue Q A α) : d.bind done = d := by
  induction d with
  | done a => rfl
  | ask q next ih => simp [bind, ih]

theorem bind_assoc {γ : Type} (d : Dialogue Q A α) (f : α → Dialogue Q A β)
    (g : β → Dialogue Q A γ) : (d.bind f).bind g = d.bind fun a => (f a).bind g := by
  induction d with
  | done a => rfl
  | ask q next ih => simp [bind, ih]

instance : LawfulMonad (Dialogue Q A) :=
  .mk' _ bind_done (fun _ _ => rfl) bind_assoc

/-- A sequence of dialogues that may fail goes on with its second part exactly if the first one
succeeds, and asks the questions of both then. -/
theorem run_bind_exceptT {ε : Type} (answer : (q : Q) → A q) (x : ExceptT ε (Dialogue Q A) α)
    (f : α → ExceptT ε (Dialogue Q A) β) :
    (x >>= f).run.run answer =
      match x.run.run answer with
      | (asked, .ok a) => (asked ++ ((f a).run.run answer).1, ((f a).run.run answer).2)
      | (asked, .error e) => (asked, .error e) := by
  have hrun : (x >>= f).run.run answer = (x.run >>= ExceptT.bindCont f).run answer := rfl
  rw [hrun, run_bind]
  obtain ⟨asked, _ | a⟩ := x.run.run answer
  · simp [ExceptT.bindCont]
  · rfl

/-- A dialogue whose questions are answered by other dialogues comes to the value that it has with
what these come to, and asks the questions of each of them in order. -/
theorem run_translate {R : Type} {B : R → Type} (f : (q : Q) → Dialogue R B (A q))
    (answer : (r : R) → B r) (d : Dialogue Q A α) :
    (d.translate f).run answer =
      ((d.run fun q => ((f q).run answer).2).1.flatMap fun q => ((f q).run answer).1,
        (d.run fun q => ((f q).run answer).2).2) := by
  induction d with
  | done a => rfl
  | ask q next ih =>
    have htranslate : (ask q next).translate f = f q >>= fun a => (next a).translate f := rfl
    rw [htranslate, run_bind, ih, run_ask, List.flatMap_cons]

end Dialogue

end BuildPackage
