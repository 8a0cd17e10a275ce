import Mathlib.Data.List.Basic

set_option relaxedAutoImplicit false
set_option autoImplicit false

/-!
# Texts of separated pieces

Pieces that are joined with a separator between neighbours are found again by splitting the text at
the separator, if the last letter of the separator is found neither earlier in the separator nor in
the pieces. The other letters of the separator may be in the pieces, at their ends too: as no separator
begins within a piece, the first one that is found after a piece is the one that was put there.

## Main definitions

* `BuildPackage.ClosedBy` — a separator with a last letter that is nowhere else in it.

## Main results

* `BuildPackage.eq_empty_of_append_eq_separator` — no separator begins within a piece.
* `BuildPackage.toList_split_intercalate` — joined pieces are found again.
-/

namespace BuildPackage

open String.Slice

/-- A separator with a last letter that is nowhere else in it. -/
def ClosedBy (separator : String) (last : Char) : Prop :=
  ∃ init, separator.toList = init ++ [last] ∧ last ∉ init

section

variable {separator piece rest : String} {last : Char} (h : ClosedBy separator last)
include h

lemma ClosedBy.ne_empty : separator ≠ "" := by
  rintro rfl
  obtain ⟨init, hinit, -⟩ := h
  simp at hinit

/-- No separator begins within a piece that ends the text or is followed by a separator. -/
lemma eq_empty_of_append_eq_separator {rest' : String} (hpiece : last ∉ piece.toList)
    (hrest : rest = "" ∨ ∃ more, rest = separator ++ more)
    (heq : piece ++ rest = separator ++ rest') : piece = "" := by
  obtain ⟨init, hseparator, hinit⟩ := h
  -- Both sides have the last letter, and at the same place.
  have hchars : piece.toList ++ rest.toList = init ++ last :: rest'.toList := by
    simpa [hseparator] using congrArg String.toList heq
  have hplace := congrArg (List.idxOf last) hchars
  rw [List.idxOf_append_of_notMem hpiece, List.idxOf_append_of_notMem hinit,
    List.idxOf_cons_self] at hplace
  rcases hrest with rfl | ⟨more, rfl⟩
  · have hmem : last ∈ piece.toList ++ "".toList := by
      rw [hchars]
      simp
    simp [hpiece] at hmem
  · have hmore : (separator ++ more).toList = init ++ last :: more.toList := by simp [hseparator]
    rw [hmore, List.idxOf_append_of_notMem hinit, List.idxOf_cons_self] at hplace
    rw [← String.toList_eq_nil_iff, ← List.length_eq_zero_iff]
    omega

variable {s : String.Slice} [Pattern.Model.StrictPatternModel separator]

/-- Splitting goes on to the end of a piece that ends the text or is followed by a separator. -/
lemma split_eq_of_splits {start stop : s.Pos} {before : String} (hpiece : last ∉ piece.toList)
    (hrest : rest = "" ∨ ∃ more, rest = separator ++ more)
    (hstart : start.Splits before (piece ++ rest)) (hstop : stop.Splits (before ++ piece) rest) :
    ∃ hle : start ≤ stop, (s.subslice start stop hle).toSlice.copy = piece ∧
      Pattern.Model.split separator start start (Std.le_refl _) =
        Pattern.Model.split separator start stop hle := by
  obtain ⟨hle, hcopy⟩ := copy_slice_eq_iff_splits.2 ⟨before, rest, hstart, hstop⟩
  rw [← toSlice_subslice] at hcopy
  refine ⟨hle, hcopy, Pattern.Model.split_eq_of_not_matchesAt stop hle ?_⟩
  intro pos hpos hlt hmatch
  obtain ⟨read, rest', hsplits⟩ := Pattern.Model.ForwardStringSearcher.matchesAt_iff_splits.1 hmatch
  obtain ⟨first, rfl, -⟩ := (hstart.le_iff_exists_eq_append hsplits).1 hpos
  obtain ⟨second, hne, happend, heq⟩ := (hsplits.lt_iff_exists_eq_append hstop).1 hlt
  have hsplit : piece = first ++ second := by simpa [String.append_assoc] using happend
  have hsecond : last ∉ second.toList := fun hmem => hpiece (by simp [hsplit, hmem])
  exact hne (eq_empty_of_append_eq_separator h hsecond hrest heq.symm)

/-- Splitting finds the pieces from the start of the first one.

**Proof sketch.** Induction on the pieces: the last one ends the text, and another one is followed by
a separator, behind which splitting starts again. -/
lemma map_split_eq_of_splits {pieces : List String} {start : s.Pos} {before : String}
    (hpieces : ∀ p ∈ piece :: pieces, last ∉ p.toList)
    (hstart : start.Splits before (separator.intercalate (piece :: pieces))) :
    (Pattern.Model.split separator start start (Std.le_refl _)).map (copy ∘ Subslice.toSlice) =
      piece :: pieces := by
  rw [List.forall_mem_cons] at hpieces
  induction pieces generalizing piece start before with
  | nil =>
    rw [String.intercalate_singleton] at hstart
    have hend : s.endPos.Splits (before ++ piece) "" :=
      splits_endPos_iff.2 ⟨hstart.eq_append.symm, rfl⟩
    rw [← String.append_empty (s := piece)] at hstart
    obtain ⟨hle, hcopy, heq⟩ := split_eq_of_splits h hpieces.1 (.inl rfl) hstart hend
    rw [heq, Pattern.Model.split_endPos, List.map_singleton, Function.comp_apply, hcopy]
  | cons piece' pieces ih =>
    rw [String.intercalate_cons_cons, String.append_assoc] at hstart
    have hstop := hstart.splits_rotateRight
    have hnext := hstop.splits_rotateRight
    obtain ⟨hle, hcopy, heq⟩ := split_eq_of_splits h hpieces.1 (.inr ⟨_, rfl⟩) hstart hstop
    have hmatch := Pattern.Model.ForwardStringSearcher.isLongestMatchAt_iff_splits.2
      ⟨_, _, hstop, hnext⟩
    rw [heq, Pattern.Model.split_eq_of_isLongestMatchAt hmatch, List.map_cons,
      Function.comp_apply, hcopy, ih (List.forall_mem_cons.1 hpieces.2) hnext]

end

/-- Pieces that are joined with a separator are found again by splitting at the separator, unless the
last letter of the separator is in one of them. -/
theorem toList_split_intercalate {separator : String} {last : Char} (h : ClosedBy separator last)
    {pieces : List String} (hne : pieces ≠ []) (hpieces : ∀ p ∈ pieces, last ∉ p.toList) :
    ((separator.intercalate pieces).split separator).toList.map copy = pieces := by
  have := Pattern.Model.ForwardStringSearcher.strictPatternModel h.ne_empty
  have := Pattern.Model.ForwardStringSearcher.lawfulToForwardSearcherModel h.ne_empty
  obtain ⟨piece, pieces, rfl⟩ := List.exists_cons_of_ne_nil hne
  rw [String.split_eq_split_toSlice, toList_split_eq_splitToSubslice,
    Pattern.toList_splitToSubslice_eq_modelSplit, List.map_map]
  have hstart : (separator.intercalate (piece :: pieces)).toSlice.startPos.Splits ""
      (separator.intercalate (piece :: pieces)) := by simp
  exact map_split_eq_of_splits h hpieces hstart

end BuildPackage
