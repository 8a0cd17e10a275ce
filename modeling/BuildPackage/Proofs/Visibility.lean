import BuildPackage.Proofs.Label.RoundTrip
import BuildPackage.Visibility

set_option relaxedAutoImplicit false
set_option autoImplicit false

/-!
# Visibilities and their labels

A visibility keeps the labels that it is read from. A special label is dropped when it stands alone,
but its text is known, and as the text of a label is read as this label and no other, reading the
text gives back the very label that was dropped.

## Main definitions

* `BuildPackage.Visibility.StandsAlone` — a special label with nothing beside it.

## Main results

* `BuildPackage.Visibility.ofLabels_eq` — which lists are read as something else than groups.
* `BuildPackage.Visibility.labels_ofLabels` — the labels of a list are kept.
* `BuildPackage.Visibility.keeps_labels` — labels and visibilities determine one another.
-/

namespace BuildPackage.Visibility

/-! ## Special labels -/

/-- The label that stands for everybody. -/
def everybodyLabel : Label := ⟨"visibility", "public", by decide +kernel, by decide +kernel⟩

/-- The label that stands for nobody. -/
def nobodyLabel : Label := ⟨"visibility", "private", by decide +kernel, by decide +kernel⟩

lemma text_everybodyLabel : everybodyLabel.text = everybodyText := by decide

lemma text_nobodyLabel : nobodyLabel.text = nobodyText := by decide

/-- A list that holds one label of the package `visibility`, with a given name. -/
def StandsAlone (name : String) (ls : List Label) : Prop :=
  ∃ l, ls = [l] ∧ l.package = "visibility" ∧ l.name = name

lemma standsAlone_iff (special : Label) (h : special.package = "visibility") (ls : List Label) :
    StandsAlone special.name ls ↔ ls = [special] := by
  constructor
  · rintro ⟨l, rfl, hpackage, hname⟩
    rw [Label.ext_parts (hpackage.trans h.symm) hname]
  · rintro rfl
    exact ⟨special, rfl, h, rfl⟩

/-! ## Reading and writing -/

lemma labels_everybody : everybody.labels = [everybodyLabel] := by
  rw [labels, ← text_everybodyLabel, Label.parse_text]
  rfl

lemma labels_nobody : nobody.labels = [nobodyLabel] := by
  rw [labels, ← text_nobodyLabel, Label.parse_text]
  rfl

/-- Two lists are read as something else than groups: those of one special label. A text belongs to
one label only, so no other label is taken for a special one. -/
theorem ofLabels_eq (ls : List Label) : ofLabels ls =
    if ls = [everybodyLabel] then everybody
    else if ls = [nobodyLabel] then nobody
    else groups ls := by
  have htext : ∀ l l' : Label, l.text = l'.text ↔ l = l' :=
    fun l l' => ⟨Label.text_injective, congrArg Label.text⟩
  match ls with
  | [] => rfl
  | [only] =>
    simp only [ofLabels, ← text_everybodyLabel, ← text_nobodyLabel, htext, List.cons.injEq,
      and_true]
  | l :: l' :: rest => simp [ofLabels]

/-- The labels of a list are kept. -/
theorem labels_ofLabels (ls : List Label) : (ofLabels ls).labels = ls := by
  rw [ofLabels_eq]
  split_ifs with heverybody hnobody
  · rw [labels_everybody, heverybody]
  · rw [labels_nobody, hnobody]
  · rfl

/-- Labels and visibilities determine one another. A visibility has the labels that it was read
from, so different lists are read as different visibilities, and one that was read is read again
from its labels. Everybody and nobody are read from their special label alone, which they are
written with. Any other list is read as its own groups, also one with a special label and more. -/
theorem keeps_labels :
    (∀ ls, (ofLabels ls).labels = ls) ∧
    (∀ ls ls', ofLabels ls = ofLabels ls' ↔ ls = ls') ∧
    (∀ ls, ofLabels (ofLabels ls).labels = ofLabels ls) ∧
    (StandsAlone "public" everybody.labels ∧ StandsAlone "private" nobody.labels) ∧
    ∀ ls, (ofLabels ls = everybody ↔ StandsAlone "public" ls) ∧
      (ofLabels ls = nobody ↔ StandsAlone "private" ls) ∧
      ∀ gs, ofLabels ls = groups gs ↔
        gs = ls ∧ ¬ StandsAlone "public" ls ∧ ¬ StandsAlone "private" ls := by
  have hpublic : ∀ ls, StandsAlone "public" ls ↔ ls = [everybodyLabel] :=
    standsAlone_iff everybodyLabel rfl
  have hprivate : ∀ ls, StandsAlone "private" ls ↔ ls = [nobodyLabel] :=
    standsAlone_iff nobodyLabel rfl
  refine ⟨labels_ofLabels, fun ls ls' => ⟨fun h => ?_, congrArg ofLabels⟩, fun ls => ?_, ?_,
    fun ls => ?_⟩
  · rw [← labels_ofLabels ls, h, labels_ofLabels]
  · rw [labels_ofLabels]
  · exact ⟨(hpublic _).2 labels_everybody, (hprivate _).2 labels_nobody⟩
  · have hne : [nobodyLabel] ≠ [everybodyLabel] := by decide
    rw [hpublic, hprivate, ofLabels_eq]
    split_ifs with heverybody hnobody
    · simp [heverybody, hne.symm]
    · simp [hnobody, hne]
    · simp [heverybody, hnobody, eq_comm]

end BuildPackage.Visibility
