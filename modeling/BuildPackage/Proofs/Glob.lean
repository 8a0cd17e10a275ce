import BuildPackage.Glob
import BuildPackage.Proofs.Text.Quoted

set_option relaxedAutoImplicit false
set_option autoImplicit false

/-!
# Provenance texts

The text of a declaration tells the declaration: its first letter tells a list from a call of `glob`,
the patterns are quoted texts, and behind the first list of a call either the call ends or a list of
exclusions follows, which is then not empty. So nothing that stands inside a pattern can be taken for
a part of the declaration.

## Main results

* `BuildPackage.GlobCriteria.readsOff_chars` — a declaration is read off its text.
* `BuildPackage.GlobCriteria.text_unambiguous` — declarations with the same text are the same.
-/

namespace BuildPackage.GlobCriteria

/-- What stands behind the first list of a call of `glob`. -/
def ending : List String → List Char
  | [] => [')']
  | excluded => ", exclude=".toList ++ (Quoted.list excluded ++ [')'])

lemma chars_glob (included excluded : List String) :
    (glob included excluded).chars =
      "glob(".toList ++ (Quoted.list included ++ ending excluded) := by
  cases excluded with
  | nil => exact List.append_assoc _ _ _
  | cons e es =>
    change "glob(".toList ++ Quoted.list included ++ ", exclude=".toList ++ Quoted.list (e :: es) ++
      [')'] = _
    simp only [ending, List.append_assoc]

/-- The end of a call of `glob` is read off. -/
lemma readsOff_ending : ReadsOff ending := by
  have hexcluded := (Quoted.readsOff_list.followed [')']).marked ", exclude=".toList
  intro ss ts rest rest' heq
  match ss, ts with
  | [], [] => exact ⟨rfl, (List.cons.inj heq).2⟩
  | [], t :: ts => exact absurd (List.cons.inj heq).1 (by decide)
  | s :: ss, [] => exact absurd (List.cons.inj heq).1 (by decide)
  | s :: ss, t :: ts => exact hexcluded (s :: ss) (t :: ts) rest rest' heq

/-- A declaration is read off its text. -/
theorem readsOff_chars : ReadsOff chars := by
  have hglob := (Quoted.readsOff_list.andThen readsOff_ending).marked "glob(".toList
  intro c c' rest rest' heq
  cases c with
  | explicit included =>
    cases c' with
    | explicit included' =>
      obtain ⟨rfl, hrest⟩ := Quoted.readsOff_list included included' rest rest' heq
      exact ⟨rfl, hrest⟩
    | glob included' excluded' =>
      rw [chars_glob] at heq
      exact absurd (List.cons.inj heq).1 (by decide)
  | glob included excluded =>
    cases c' with
    | explicit included' =>
      rw [chars_glob] at heq
      exact absurd (List.cons.inj heq).1 (by decide)
    | glob included' excluded' =>
      rw [chars_glob, chars_glob] at heq
      obtain ⟨hsame, hrest⟩ := hglob (included, excluded) (included', excluded') rest rest' heq
      obtain ⟨rfl, rfl⟩ := Prod.mk.inj hsame
      exact ⟨rfl, hrest⟩

/-- Declarations with the same text are the same: either both list their items or both call `glob`,
and they have the same patterns, whatever characters are in these. -/
theorem text_unambiguous (c c' : GlobCriteria) :
    (c.text = c'.text ↔ c = c') ∧
      (c = c' ↔
        c.isGlob = c'.isGlob ∧ c.included = c'.included ∧ c.excluded = c'.excluded) := by
  constructor
  · rw [text, text, String.ofList_inj]
    exact readsOff_chars.injective.eq_iff
  · cases c <;> cases c' <;> simp [isGlob, included, excluded]

example : (glob ["a\", exclude=[\"b"] []).text = "glob([\"a\\\", exclude=[\\\"b\"])" ∧
    (glob ["a"] ["b"]).text = "glob([\"a\"], exclude=[\"b\"])" := by
  decide

end BuildPackage.GlobCriteria
