import BuildPackage.Label.Basic

set_option relaxedAutoImplicit false
set_option autoImplicit false

/-!
# Visibility

Who may depend on a target: everybody, nobody outside its package, or the packages of some groups.
The first two are written as labels of a package that does not exist.

## Main definitions

* `BuildPackage.Visibility` — the three cases.
* `BuildPackage.Visibility.ofLabels` — the visibility of a list of labels.
* `BuildPackage.Visibility.labels` — the labels that a visibility is written with.
-/

namespace BuildPackage

/-- Who may depend on a target. -/
inductive Visibility where
  /-- Everybody. -/
  | everybody
  /-- Nobody outside the package. -/
  | nobody
  /-- The packages of some groups. -/
  | groups (labels : List Label)
  deriving DecidableEq

namespace Visibility

/-- The text of the label that stands for everybody. -/
def everybodyText : String := "//visibility:public"

/-- The text of the label that stands for nobody. -/
def nobodyText : String := "//visibility:private"

/-- The visibility of a list of labels. The two special labels count only when they stand alone, and
are known by their texts. -/
def ofLabels : List Label → Visibility
  | [only] =>
    if only.text = everybodyText then everybody
    else if only.text = nobodyText then nobody
    else groups [only]
  | labels => groups labels

/-- The labels that a visibility is written with. -/
def labels : Visibility → List Label
  | everybody => (Label.parse everybodyText).toOption.toList
  | nobody => (Label.parse nobodyText).toOption.toList
  | groups labels => labels

/-- The name of the case. -/
def kindText : Visibility → String
  | everybody => "public"
  | nobody => "private"
  | groups _ => "groups"

end Visibility

end BuildPackage
