import BuildPackage.Proofs.Label.Grammar

set_option relaxedAutoImplicit false
set_option autoImplicit false

/-!
# Labels and their texts

The full text of a label is read as the label. So labels with the same text are the same, and the
text of a label that was read is the text that it was read from, with the name added if that was left
out. Putting two parts together comes to the same as reading their text, even where a part has a
colon in it and the text falls into other parts: no label has such a part.

## Main results

* `BuildPackage.Label.parse_text` — the text of a label is read as the label.
* `BuildPackage.Label.text_of_parse` — the text of a label that was read.
* `BuildPackage.Label.ofParts_eq_ok_iff` — two parts give the label that their text is read as.
* `BuildPackage.Label.text_roundTrip` — all of this together.
-/

namespace BuildPackage.Label

variable {text package name : String} {l : Label}

/-! ## Colons -/

lemma colon_notMem_package (l : Label) : ':' ∉ l.package.toList := by
  rcases l.package_grammar with h | h
  · rw [h]
    exact List.not_mem_nil
  · exact h.isTargetName.colon_notMem

lemma colon_notMem_name (l : Label) : ':' ∉ l.name.toList := l.name_grammar.colon_notMem

/-! ## Reading and writing -/

/-- The text of a label is read as the label. -/
theorem parse_text (l : Label) : parse l.text = .ok l := by
  rw [Label.text, parse_full l.colon_notMem_package]
  exact check_eq_ok_iff.2 ⟨rfl, rfl⟩

/-- Labels with the same text are the same. -/
theorem text_injective {l l' : Label} (h : l.text = l'.text) : l = l' := by
  refine Except.ok.inj (?_ : (.ok l : Except LabelError Label) = .ok l')
  rw [← parse_text l, h, parse_text l']

/-- Slashes in front of a text do not change its last segment. -/
lemma defaultName_anchored (package : String) :
    defaultName ("//" ++ package) = defaultName package := by
  have hsplit : Segments.split ("//" ++ package).toList =
      [] :: [] :: Segments.split package.toList := by
    simp [Segments.split]
  simp only [defaultName, Segments.last, hsplit, List.getLastD_cons]

/-- The text of a label that was read is the text itself if that has a colon. Otherwise the last
segment is added as the name. -/
theorem text_of_parse (h : parse text = .ok l) :
    l.text = if ':' ∈ text.toList then text else text ++ ":" ++ defaultName text := by
  have hw := written_of_parse h
  rw [Label.text]
  generalize l.package = package, l.name = name at hw
  cases hw with
  | full hcolon => rw [if_pos (by simp)]
  | short hcolon => rw [if_neg (by simpa using hcolon), defaultName_anchored]

/-- Two parts give a label exactly if their text is read as this label.

**Proof sketch.** If the package has no colon, the text falls into the same two parts. If it has one,
neither side succeeds: the package is not in order, and the name that is read has a colon in it. -/
theorem ofParts_eq_ok_iff :
    ofParts package name = .ok l ↔ parse ("//" ++ package ++ ":" ++ name) = .ok l := by
  by_cases hcolon : ':' ∈ package.toList
  · refine iff_of_false (fun h => ?_) fun h => ?_
    · obtain ⟨rfl, -⟩ := check_eq_ok_iff.1 h
      exact l.colon_notMem_package hcolon
    · obtain ⟨first, rest, hsplit, hnot⟩ := List.eq_append_cons_of_mem hcolon
      have htext : "//" ++ package ++ ":" ++ name =
          "//" ++ String.ofList first ++ ":" ++ (String.ofList rest ++ ":" ++ name) := by
        rw [← String.toList_inj]
        simp [hsplit]
      rw [htext, parse_full (by simpa using hnot)] at h
      obtain ⟨-, hname⟩ := check_eq_ok_iff.1 h
      refine l.colon_notMem_name ?_
      rw [hname]
      simp
  · rw [parse_full hcolon]

/-- Labels and their texts determine one another. The text of a label is read as the label, so no two
labels have the same text. The text of a label that was read is the text it was read from, with the
last segment added as the name if no name was given. And two parts, whatever is in them, give a label
exactly if their text is read as this label; if the package has no colon they are refused alike. -/
theorem text_roundTrip :
    (∀ l : Label, parse l.text = .ok l) ∧
    (∀ l l' : Label, l.text = l'.text → l = l') ∧
    (∀ text l, parse text = .ok l →
      l.text = if ':' ∈ text.toList then text else text ++ ":" ++ defaultName text) ∧
    ∀ package name,
      (∀ l, ofParts package name = .ok l ↔ parse ("//" ++ package ++ ":" ++ name) = .ok l) ∧
      (':' ∉ package.toList →
        ofParts package name = parse ("//" ++ package ++ ":" ++ name)) :=
  ⟨parse_text, fun _ _ => text_injective, fun _ _ => text_of_parse, fun _ name =>
    ⟨fun _ => ofParts_eq_ok_iff, fun h => (parse_full h name).symm⟩⟩

/-- A text with its name left out, and two parts with a colon in the first one. -/
theorem text_roundTrip_of_colon :
    ∃ l, parse "//a/b" = .ok l ∧ l.text = "//a/b:b" ∧ parse "//a/b:b" = .ok l ∧
      ofParts "a/b" "b" = .ok l ∧ ofParts "a/b" "" = parse "//a/b:" ∧
        ∀ k, ofParts "a:b" "c" = .ok k ↔ parse "//a:b:c" = .ok k := by
  obtain ⟨hread, -, htext, hparts⟩ := text_roundTrip
  have hok : (parse "//a/b").isOk = true := by decide +kernel
  obtain ⟨l, hl⟩ := Outcome.isOk_iff.1 hok
  have hlt : l.text = "//a/b:b" := by
    rw [htext _ l hl]
    decide
  have hfull : parse "//a/b:b" = .ok l := by
    rw [← hlt]
    exact hread l
  exact ⟨l, hl, hlt, hfull, ((hparts "a/b" "b").1 l).2 hfull, (hparts "a/b" "").2 (by decide),
    (hparts "a:b" "c").1⟩

end BuildPackage.Label
