import BuildPackage.Proofs.Package.Assembly

set_option relaxedAutoImplicit false
set_option autoImplicit false

/-!
# Decoding compared

One inquiry covers another if it succeeds wherever the other one does, after the same questions and
with the same value. Covering is kept by sequences. So to compare two ways of decoding it is enough
to compare how they read the rules of a message, wherever both agree on all the rest.

## Main definitions

* `BuildPackage.Inquiry.Covers` — an inquiry that succeeds wherever another one does.
* `BuildPackage.Wire.Rule.Covers` — a rule that is read wherever another one is.

## Main results

* `BuildPackage.Inquiry.Covers.bind` — sequences of inquiries that cover one another.
* `BuildPackage.Package.covers_ofWire`, `BuildPackage.CheckedPackage.covers_ofWire` — messages whose
  rules cover one another.
-/

namespace BuildPackage

variable {w : Workspace}

/-! ## Inquiries -/

namespace Inquiry

variable {α β : Type}

/-- Whatever the second inquiry succeeds with, the first one succeeds with as well, after the same
questions. -/
def Covers (w : Workspace) (i' i : Inquiry α) : Prop :=
  ∀ asked a, i.inWorkspace w = (asked, .ok a) → i'.inWorkspace w = (asked, .ok a)

lemma Covers.refl (i : Inquiry α) : Covers w i i := fun _ _ h => h

lemma Covers.ofExcept {x x' : Except DecodeError α} (h : ∀ a, x = .ok a → x' = .ok a) :
    Covers w (ofExcept x') (ofExcept x) := by
  intro asked a ha
  simp only [inWorkspace_ofExcept, Prod.mk.injEq] at ha ⊢
  exact ⟨ha.1, h a ha.2⟩

/-- A sequence covers another one if its parts do. -/
lemma Covers.bind {i i' : Inquiry α} {f f' : α → Inquiry β} (hi : Covers w i' i)
    (hf : ∀ a, Covers w (f' a) (f a)) : Covers w (i' >>= f') (i >>= f) := by
  intro asked b hb
  rw [inWorkspace_bind] at hb ⊢
  rcases hr : i.inWorkspace w with ⟨first, e | a⟩
  · simp [hr] at hb
  · rw [hr] at hb
    obtain ⟨hasked, hb⟩ := Prod.mk.inj hb
    have hfa := hf a _ b (Prod.ext rfl hb)
    rw [hi first a hr]
    show (first ++ ((f' a).inWorkspace w).1, ((f' a).inWorkspace w).2) = (asked, .ok b)
    rw [hfa, ← hasked]

end Inquiry

/-! ## Rules -/

/-- Wherever the second rule is read in the second registry, the first one is read in the first
registry as the same rule. -/
def Wire.Rule.Covers (registry' registry : Registry) (r' r : Wire.Rule) : Prop :=
  ∀ buildFile x, BuildPackage.Rule.ofWire registry buildFile r = .ok x →
    BuildPackage.Rule.ofWire registry' buildFile r' = .ok x

variable {registry registry' : Registry} {m : Wire.Package} {rules : List Wire.Rule}

/-- Where the targets of a message are added, those of a message with rules that cover its rules are
added as well. -/
lemma Builder.ofWire_eq_ok_of_covers
    (h : List.Forall₂ (fun r r' => r'.Covers registry' registry r) m.rules rules) {s : Setting}
    {b : Builder} (hb : Builder.ofWire registry m s = .ok b) :
    Builder.ofWire registry' { m with rules } s = .ok b := by
  rw [Builder.ofWire_eq_ok_iff] at hb ⊢
  obtain ⟨files, groups, rules', hf, hg, hr, hvacant, rfl⟩ := hb
  have hrules := Outcome.mapM_eq_ok_of_forall₂ (h.imp fun _ _ hrr => hrr s.buildFile) hr
  exact ⟨files, groups, rules', hf, hg, hrules, hvacant, rfl⟩

/-! ## Packages -/

/-- Assembling a message with rules that cover those of another message covers assembling that. -/
lemma covers_assemble
    (h : List.Forall₂ (fun r r' => r'.Covers registry' registry r) m.rules rules) :
    (assemble registry' { m with rules }).Covers w (assemble registry m) := by
  unfold assemble
  refine .bind (.refl _) fun s => .bind (.ofExcept fun b hb => ?_) fun b => .refl _
  exact Builder.ofWire_eq_ok_of_covers h hb

/-- Decoding a message with rules that cover those of another message covers decoding that. -/
theorem Package.covers_ofWire
    (h : List.Forall₂ (fun r r' => r'.Covers registry' registry r) m.rules rules) :
    (Package.ofWire registry' { m with rules }).Covers w (Package.ofWire registry m) := by
  rw [Package.ofWire_eq, Package.ofWire_eq]
  exact (covers_assemble h).bind fun _ => .refl _

/-- The same with a search for subpackages. -/
theorem CheckedPackage.covers_ofWire
    (h : List.Forall₂ (fun r r' => r'.Covers registry' registry r) m.rules rules) :
    (CheckedPackage.ofWire registry' { m with rules }).Covers w
      (CheckedPackage.ofWire registry m) := by
  rw [CheckedPackage.ofWire_eq, CheckedPackage.ofWire_eq]
  exact (covers_assemble h).bind fun _ => .refl _

end BuildPackage
