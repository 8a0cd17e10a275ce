import BuildPackage.Proofs.Label.Grammar
import BuildPackage.Proofs.Path
import Mathlib.Data.List.DropRight

set_option relaxedAutoImplicit false
set_option autoImplicit false

/-!
# Files beside a file

The parent of a path is a part of its text, cut off with care for slashes and meaningless segments
at the cut. By components it is simple: the parent has all components but the last one, whatever the
path is written like. A target name goes on from there with its own segments, each of which is an
entry, so a target beside a file has the components of the file with the last one replaced.

## Main results

* `BuildPackage.Path.components_assemble` — the components of segments after a start.
* `BuildPackage.Path.components_parent` — the parent has all components but the last one.
* `BuildPackage.Path.components_join_name` — a target name adds its segments to a directory.
-/

namespace BuildPackage

namespace Path

/-! ## Anatomy -/

/-- Segments of a path have no slashes. -/
lemma slash_notMem_of_mem_anatomy {p : Path} {s : List Char} (h : s ∈ p.anatomy.2) : '/' ∉ s := by
  unfold anatomy at h
  split at h
  · exact Segments.slash_notMem_of_mem_split h
  · split at h
    · rename_i rest hsplit
      have hs : s ∈ Segments.split p.text.toList := by
        rw [hsplit]
        exact List.mem_cons_of_mem _ h
      exact Segments.slash_notMem_of_mem_split hs
    · exact Segments.slash_notMem_of_mem_split h

/-- The segments that a start may stand before: without a start of its own, a text begins with a
segment that is neither empty nor the directory itself. -/
def Start.Precedes (start : Start) (segments : List (List Char)) : Prop :=
  start = .bare → ∀ s ∈ segments.head?, s ≠ [] ∧ s ≠ ['.']

/-- Only the empty path begins with an empty segment where a start could be. -/
lemma precedes_anatomy {p : Path} (h : p.text ≠ "") : p.anatomy.1.Precedes p.anatomy.2 := by
  unfold anatomy
  split
  · intro hbare
    cases hbare
  · rename_i hslash
    split
    · intro hbare
      cases hbare
    · rename_i hdot
      intro _ s hs
      obtain ⟨rest, hsplit⟩ : ∃ rest, Segments.split p.text.toList = s :: rest :=
        List.head?_eq_some_iff.1 hs
      refine ⟨?_, ?_⟩
      · rintro rfl
        have htext := Segments.join_split p.text.toList
        rw [hsplit] at htext
        cases rest with
        | nil => exact h (String.toList_eq_nil_iff.1 htext.symm)
        | cons t rest => exact hslash _ htext.symm
      · rintro rfl
        exact hdot rest hsplit

/-! ## Assembly -/

/-- Segments without slashes are the entries of their text. -/
lemma entries_join {segments : List (List Char)} (h : ∀ s ∈ segments, '/' ∉ s) :
    entries (Segments.join segments) = segments.filterMap component? := by
  by_cases hne : segments = []
  · rw [hne]
    rfl
  · rw [entries, Segments.split_join hne h]

/-- The components of segments after a start are those of the start and of the segments. -/
theorem components_assemble {start : Start} {segments : List (List Char)}
    (hslash : ∀ s ∈ segments, '/' ∉ s) (hstart : start.Precedes segments) :
    (assemble start segments).components =
      start.components ++ segments.filterMap component? := by
  rw [← entries_join hslash]
  cases start with
  | root => exact components_slash _
  | here =>
    cases segments with
    | nil => rfl
    | cons s rest => exact components_append (List.cons_ne_nil '.' []) _
  | bare =>
    cases segments with
    | nil => rfl
    | cons s rest =>
      obtain ⟨hne, hdot⟩ := hstart rfl s rfl
      have hsplit := Segments.split_join (List.cons_ne_nil s rest) hslash
      have hhead : (Segments.join (s :: rest)).head? ≠ some '/' := by
        intro h
        obtain ⟨cs, h⟩ := List.head?_eq_some_iff.1 h
        rw [h, Segments.split, if_pos rfl] at hsplit
        exact hne (List.cons.inj hsplit).1.symm
      rw [assemble, components_eq, anatomy_fst, String.toList_ofList, if_neg hhead, hsplit,
        List.head?_cons, if_neg fun h => hdot (Option.some.inj h)]

/-! ## Parents -/

lemma trimEnd_eq (segments : List (List Char)) :
    trimEnd segments = segments.rdropWhile fun s => (component? s).isNone := rfl

lemma isPrefix_trimEnd (segments : List (List Char)) : trimEnd segments <+: segments :=
  List.rdropWhile_prefix _ segments

/-- Meaningless segments at the end add no component. -/
lemma filterMap_trimEnd (segments : List (List Char)) :
    (trimEnd segments).filterMap component? = segments.filterMap component? := by
  induction segments using List.reverseRecOn with
  | nil => rfl
  | append_singleton segments s ih =>
    rw [trimEnd_eq, List.rdropWhile_concat, ← trimEnd_eq, List.filterMap_append]
    split_ifs with hs
    · rw [ih, List.filterMap_cons_none (Option.isNone_iff_eq_none.1 hs)]
      exact (List.append_nil _).symm
    · rw [List.filterMap_append]

/-- What is left without meaningless segments at the end is nothing or ends with a component. -/
lemma trimEnd_cases (segments : List (List Char)) :
    trimEnd segments = [] ∨
      ∃ front s c, trimEnd segments = front ++ [s] ∧ component? s = some c := by
  by_cases hne : trimEnd segments = []
  · exact .inl hne
  · obtain ⟨c, hc⟩ := Option.ne_none_iff_exists'.1
      (mt Option.isNone_iff_eq_none.2 (List.rdropWhile_last_not _ segments hne))
    exact .inr ⟨_, _, c, (List.dropLast_append_getLast hne).symm, hc⟩

/-- The parent of a path has all components of the path but the last one, and so none if there is
only one.

**Proof sketch.** Without meaningless segments at its end, the path is empty after its start, or its
last segment is its last component. What is before that segment is trimmed and assembled again,
behind the same start and with the same first segment. -/
theorem components_parent (p : Path) : p.parent.components = p.components.dropLast := by
  have hcomponents : p.components =
      p.anatomy.1.components ++ (trimEnd p.anatomy.2).filterMap component? := by
    rw [filterMap_trimEnd]
    rfl
  obtain hnil | ⟨front, s, c, hlast, hc⟩ := trimEnd_cases p.anatomy.2
  · rw [hcomponents, parent, hnil]
    cases p.anatomy.1 <;> rfl
  · have hinitial : trimEnd front <+: p.anatomy.2 := by
      have hfront : front <+: trimEnd p.anatomy.2 := hlast ▸ List.prefix_append _ _
      exact (isPrefix_trimEnd front).trans (hfront.trans (isPrefix_trimEnd _))
    have hparent : p.parent = assemble p.anatomy.1 (trimEnd front) := by
      unfold parent
      rw [hlast]
      simp
    have htext : p.text ≠ "" := by
      intro h
      obtain ⟨text⟩ := p
      obtain rfl : text = "" := h
      have hempty : trimEnd (⟨""⟩ : Path).anatomy.2 = [] := by decide
      simp [hempty] at hlast
    have hstart : p.anatomy.1.Precedes (trimEnd front) := by
      intro hbare s' hs'
      obtain ⟨rest, hrest⟩ := List.head?_eq_some_iff.1 hs'
      refine precedes_anatomy htext hbare s' ?_
      obtain ⟨more, hmore⟩ := hinitial
      rw [← hmore, hrest]
      rfl
    rw [hparent, components_assemble
      (fun t ht => slash_notMem_of_mem_anatomy (hinitial.subset ht)) hstart, filterMap_trimEnd,
      hcomponents, hlast, List.filterMap_append, List.filterMap_cons_some hc, List.filterMap_nil,
      ← List.append_assoc, List.dropLast_concat]

example : (⟨"ws//lib/./BUILD/."⟩ : Path).parent.components =
    [.entry ['w', 's'], .entry ['l', 'i', 'b']] := by decide +kernel

end Path

/-! ## Target names -/

/-- A target name is relative and never goes up. -/
lemma Label.descends_name (l : Label) : Descends l.name :=
  .of_segments fun s hs => ⟨(l.segments_name s hs).ne_nil, (l.segments_name s hs).ne_dots⟩

namespace Path

/-- Every segment of a target name is an entry. -/
lemma entries_name (l : Label) :
    entries l.name.toList = (Segments.split l.name.toList).map .entry := by
  rw [entries, ← List.filterMap_eq_map]
  refine List.filterMap_congr fun s hs => ?_
  have hsegment := l.segments_name s hs
  rw [component?, if_neg (not_or.2 ⟨hsegment.ne_nil, hsegment.ne_dot⟩), if_neg hsegment.ne_dots]
  rfl

/-- A target name adds its segments to the components of a directory.

**Proof sketch.** The name is relative, and below the empty path it does not begin with `.`, which
would be a component in this place. -/
theorem components_join_name (base : Path) (l : Label) :
    (base.join l.name).components =
      base.components ++ (Segments.split l.name.toList).map .entry := by
  have hrelative := l.descends_name.relative
  rw [← entries_name]
  by_cases hbase : base.text = ""
  · obtain ⟨text⟩ := base
    obtain rfl : text = "" := hbase
    have hdot : ¬ (Segments.split l.name.toList).head? = some ['.'] := by
      intro h
      obtain ⟨rest, h⟩ := List.head?_eq_some_iff.1 h
      exact (l.segments_name _ (h ▸ List.mem_cons_self)).ne_dot rfl
    rw [join_empty hrelative, components_eq, anatomy_fst, if_neg hrelative, if_neg hdot]
    rfl
  · exact components_join hbase hrelative

end Path

end BuildPackage
