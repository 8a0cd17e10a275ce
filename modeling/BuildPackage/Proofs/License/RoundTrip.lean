import BuildPackage.Proofs.Label.RoundTrip
import BuildPackage.Proofs.License.Reading
import BuildPackage.Proofs.Text.Separated

set_option relaxedAutoImplicit false
set_option autoImplicit false

/-!
# Licenses and their texts

The text of a license is its tokens with a comma and a space between neighbours. A label may have
commas in it and end in one, but no token has a space, so splitting the text at the separators gives
the tokens again. There is always a type, so there is always a token, and no type is made up where the
tokens are read again. They are read as the license that they were written for.

## Main definitions

* `BuildPackage.License.pieces` — what stands between the separators of a text.

## Main results

* `BuildPackage.License.parse_tokens` — the tokens of a license are read as the license.
* `BuildPackage.License.pieces_text` — the pieces of the text of a license are its tokens.
* `BuildPackage.License.rereads_text` — licenses are read again from their texts.
-/

namespace BuildPackage.License

variable {tokens : List String} {l l' : License}

/-- What stands between the commas with a space behind them. -/
def pieces (text : String) : List String := (text.split ", ").toList.map String.Slice.copy

/-! ## Tokens -/

/-- There is a type in every license that is read. -/
lemma types_ne_empty_of_parse (h : parse tokens = .ok l) : l.types ≠ ∅ :=
  types_ne_empty_of_mem_iff (parse_eq_ok_iff.1 h).mem_types

/-- The tokens of a license stand for its types and its exceptions. -/
lemma forall₂_written_tokens (l : License) :
    List.Forall₂ (fun token t => Token.Written token t) l.tokens
      (l.types.toList.map .ofType ++ l.exceptions.toList.map .ofException) := by
  refine List.rel_append ?_ ?_ <;> rw [List.forall₂_map_left_iff, List.forall₂_map_right_iff]
  · exact List.forall₂_same.2 fun type _ => .type (SameInAnyCase.refl type.text)
  · exact List.forall₂_same.2 fun label _ => .exception label.parse_text

/-- The tokens of a license with a type are read as the license.

**Proof sketch.** The license of the tokens has the types and exceptions that the tokens stand for.
As there is a type, it has no other one. -/
theorem parse_tokens (h : l.types ≠ ∅) : parse l.tokens = .ok l := by
  have hgathers := gathers_ofTokens l.forall₂_written_tokens
  obtain ⟨type, htype⟩ : ∃ type, type ∈ l.types := by
    rw [ne_eq, Std.ExtTreeSet.eq_empty_iff_forall_not_mem] at h
    push Not at h
    exact h
  have hsame :
      ofTokens (l.types.toList.map .ofType ++ l.exceptions.toList.map .ofException) = l := by
    refine eq_of_mem_iff (fun type' => ?_) fun label => ?_
    · rw [mem_types_ofTokens, or_iff_left fun hnone => hnone.2 type (by simp [htype])]
      simp
    · rw [mem_exceptions_ofTokens]
      simp
  rw [hsame] at hgathers
  exact parse_eq_ok_iff.2 hgathers

/-! ## Pieces -/

lemma space_notMem_label (l : Label) : ' ' ∉ l.text.toList := by
  have hspace : ¬ IsTargetLetter ' ' := fun h => absurd h.1 (by decide)
  have hpackage : ' ' ∉ l.package.toList := by
    rcases l.package_grammar with h | h
    · rw [h]
      exact List.not_mem_nil
    · exact h.isTargetName.notMem not_isTargetLetter_slash hspace (by decide)
  have hname : ' ' ∉ l.name.toList :=
    l.name_grammar.notMem not_isTargetLetter_slash hspace (by decide)
  simp [Label.text, hpackage, hname]

/-- No token of a license has a space. -/
lemma space_notMem_tokens (l : License) : ∀ token ∈ l.tokens, ' ' ∉ token.toList := by
  rw [tokens, List.forall_mem_append, List.forall_mem_map, List.forall_mem_map]
  constructor
  · intro type _
    cases type <;> decide
  · intro label _
    have hmark : ' ' ∉ exceptionMark.toList := by decide
    simp [hmark, space_notMem_label]

/-- The pieces of the text of a license with a type are its tokens. -/
theorem pieces_text (h : l.types ≠ ∅) : pieces l.text = l.tokens := by
  have hclosed : ClosedBy ", " ' ' := ⟨[','], by decide, by decide⟩
  refine toList_split_intercalate hclosed ?_ l.space_notMem_tokens
  simp [tokens, Std.ExtTreeSet.toList_eq_nil_iff, h]

/-- Licenses are read again from their texts.

The pieces of the text of a license that was read, which stand between the commas with a space behind
them, are read as the license. So two licenses with the same text are the same. -/
theorem rereads_text :
    (∀ tokens l, parse tokens = .ok l → parse (pieces l.text) = .ok l) ∧
    ∀ tokens tokens' l l', parse tokens = .ok l → parse tokens' = .ok l' → l.text = l'.text →
      l = l' := by
  have hread : ∀ tokens l, parse tokens = .ok l → parse (pieces l.text) = .ok l := by
    intro tokens l h
    have htypes := types_ne_empty_of_parse h
    rw [pieces_text htypes, parse_tokens htypes]
  refine ⟨hread, fun tokens tokens' l l' h h' htext => ?_⟩
  have hl := hread tokens l h
  rw [htext, hread tokens' l' h'] at hl
  exact (Except.ok.inj hl).symm

/-- A license with exceptions that end in commas. -/
theorem rereads_text_of_commas :
    ∃ l, parse ["exception=//a:c,,", "notice", "exception=//a:b,"] = .ok l ∧
      l.text = "notice, exception=//a:b,, exception=//a:c,," ∧
      parse (pieces "notice, exception=//a:b,, exception=//a:c,,") = .ok l := by
  have htext : (parse ["exception=//a:c,,", "notice", "exception=//a:b,"]).map text =
      .ok "notice, exception=//a:b,, exception=//a:c,," := by decide +kernel
  obtain ⟨l, hl, htext⟩ := Outcome.map_eq_ok_iff.1 htext
  refine ⟨l, hl, htext, ?_⟩
  rw [← htext]
  exact rereads_text.1 _ l hl

end BuildPackage.License
