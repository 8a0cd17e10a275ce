import BuildPackage.Label.Basic
import Mathlib.Data.List.TakeWhile

set_option relaxedAutoImplicit false
set_option autoImplicit false

/-!
# Texts of labels

A label is read from its two parts, which the first colon separates. A text without a colon is short
for one with a colon: the last segment of the package is then the name. Both texts are read as the
same label, so it does not matter which of them is written.

## Main definitions

* `BuildPackage.Label.Expands` — a text that is another one or its full form.

## Main results

* `BuildPackage.Label.check_eq_ok_iff` — what checking two parts succeeds with.
* `BuildPackage.Label.defaultName_eq_empty_iff` — the packages that leave no name.
* `BuildPackage.Label.parse_full` — a text with a colon is read as its two parts.
* `BuildPackage.Label.parse_short` — a text without a colon is read as its package.
* `BuildPackage.Label.Expands.parse_eq` — the full form of a text is read as the text itself.
-/

namespace BuildPackage.Label

/-! ## Parts -/

/-- The label of two parts that are checked is made of these parts. -/
lemma check_eq_ok_iff {text package name : String} {l : Label} :
    check text package name = .ok l ↔ l.package = package ∧ l.name = name := by
  constructor
  · intro h
    unfold check at h
    split at h
    · cases h
    · cases h
    · obtain rfl := Except.ok.inj h
      exact ⟨rfl, rfl⟩
  · rintro ⟨rfl, rfl⟩
    unfold check
    have hp := l.package_valid
    have hn := l.name_valid
    split <;> simp_all

/-! ## The first colon -/

section

variable {package : List Char} (h : ':' ∉ package)
include h

lemma ne_colon_of_mem : ∀ c ∈ package, (c != ':') = true := by
  intro c hc
  rw [bne_iff_ne]
  rintro rfl
  exact h hc

/-- A text without a colon has no two parts. -/
lemma splitColon?_eq_none : splitColon? package = none := by
  have hdrop : package.dropWhile (· != ':') = [] :=
    List.dropWhile_eq_nil_iff.2 (ne_colon_of_mem h)
  simp only [splitColon?, hdrop]

/-- The first colon separates the two parts. -/
lemma splitColon?_append (name : List Char) :
    splitColon? (package ++ ':' :: name) = some (package, name) := by
  have hdrop : (package ++ ':' :: name).dropWhile (· != ':') = ':' :: name := by
    rw [List.dropWhile_append_of_pos (ne_colon_of_mem h)]
    rfl
  have htake : (package ++ ':' :: name).takeWhile (· != ':') = package := by
    rw [List.takeWhile_append_of_pos (ne_colon_of_mem h)]
    simp
  simp only [splitColon?, hdrop, htake]

end

/-! ## Short and full texts -/

/-- The name that a package gives to its label when no name is written: its last segment. -/
def defaultName (package : String) : String := String.ofList (Segments.last package.toList)

variable {package : String}

lemma defaultName_eq_empty_iff_last :
    defaultName package = "" ↔ Segments.last package.toList = [] := by
  rw [← String.toList_inj, defaultName, String.toList_ofList]
  rfl

/-- No name is left by a package that ends with a slash, and none by the root package. -/
lemma defaultName_eq_empty_iff :
    defaultName package = "" ↔ package = "" ∨ package.toList.getLast? = some '/' := by
  rw [defaultName_eq_empty_iff_last, Segments.last_eq_nil_iff, ← String.toList_inj]
  rfl

/-- A text with a colon is read as its two parts. -/
theorem parse_full (h : ':' ∉ package.toList) (name : String) :
    parse ("//" ++ package ++ ":" ++ name) = ofParts package name := by
  have hchars : ("//" ++ package ++ ":" ++ name).toList =
      '/' :: '/' :: (package.toList ++ ':' :: name.toList) := by simp
  rw [parse, hchars]
  simp only [splitColon?_append h, String.ofList_toList]
  rfl

/-- A text without a colon is read as its package with the default name, which has to be there. -/
theorem parse_short (h : ':' ∉ package.toList) :
    parse ("//" ++ package) =
      if Segments.last package.toList = [] then .error ⟨"//" ++ package, .emptyTarget⟩
      else check ("//" ++ package) package (defaultName package) := by
  have hchars : ("//" ++ package).toList = '/' :: '/' :: package.toList := by simp
  rw [parse, hchars]
  simp only [splitColon?_eq_none h, String.ofList_toList]
  rfl

/-- A text without a colon can only be read as the label of its default name. -/
theorem parse_eq_of_short (h : ':' ∉ package.toList) {l : Label}
    (hl : parse ("//" ++ package) = .ok l) :
    l.package = package ∧ l.name = defaultName package := by
  rw [parse_short h] at hl
  split_ifs at hl with hlast
  exact check_eq_ok_iff.1 hl

/-- A text that is another one, or the full form of one that is read without a colon. -/
inductive Expands : String → String → Prop
  /-- The text is left as it is. -/
  | same (text : String) : Expands text text
  /-- The name is written behind a colon. -/
  | full {package : String} (short : ':' ∉ package.toList)
      (valid : (parse ("//" ++ package)).isOk = true) :
      Expands ("//" ++ package) ("//" ++ package ++ ":" ++ defaultName package)

/-- The full form of a text is read as the text itself. -/
theorem Expands.parse_eq {text text' : String} (h : Expands text text') :
    parse text' = parse text := by
  cases h with
  | same => rfl
  | @full package short valid =>
    cases hl : parse ("//" ++ package) with
    | error e =>
      rw [hl] at valid
      cases valid
    | ok l =>
      rw [parse_full short]
      exact check_eq_ok_iff.2 (parse_eq_of_short short hl)

example : Expands "//a/b" "//a/b:b" := @Expands.full "a/b" (by decide) (by decide +kernel)

end BuildPackage.Label
