set_option relaxedAutoImplicit false
set_option autoImplicit false

/-!
# Segments of slash-separated text

Package names, target names, package specifications and paths are all lists of segments written
with slashes between them. Empty segments count: a text with `n` slashes has `n + 1` segments.

## Main definitions

* `BuildPackage.Segments.split` — the segments of a text.
* `BuildPackage.Segments.join` — the text of a list of segments.
* `BuildPackage.Segments.last` — the last segment of a text.

## Main results

* `BuildPackage.Segments.join_split` — splitting loses nothing.
* `BuildPackage.Segments.split_join` — segments without slashes are read back from their text.
-/

namespace BuildPackage.Segments

/-- The segments of a text, in order. A text without a slash is its own only segment. -/
def split : List Char → List (List Char)
  | [] => [[]]
  | c :: cs =>
    if c = '/' then [] :: split cs
    else
      match split cs with
      | [] => [[c]]
      | s :: rest => (c :: s) :: rest

/-- The text of a list of segments, with a slash between neighbours. -/
def join : List (List Char) → List Char
  | [] => []
  | [s] => s
  | s :: t :: rest => s ++ '/' :: join (t :: rest)

/-- The text after the last slash. -/
def last (cs : List Char) : List Char := (split cs).getLastD []

theorem split_ne_nil (cs : List Char) : split cs ≠ [] := by
  induction cs with
  | nil => simp [split]
  | cons c cs ih =>
    rw [split]
    split
    · simp
    · split <;> simp

/-- Splitting loses nothing: the segments of a text join to the text. -/
theorem join_split (cs : List Char) : join (split cs) = cs := by
  induction cs with
  | nil => rfl
  | cons c cs ih =>
    rw [split]
    cases hs : split cs with
    | nil => exact absurd hs (split_ne_nil cs)
    | cons s rest =>
      rw [hs] at ih
      by_cases hc : c = '/'
      · simp [hc, join, ih]
      · cases rest <;> simp [hc, join, ← ih]

theorem slash_notMem_of_mem_split {cs s : List Char} (h : s ∈ split cs) : '/' ∉ s := by
  induction cs generalizing s with
  | nil => simp_all [split]
  | cons c cs ih =>
    rw [split] at h
    cases hs : split cs with
    | nil => exact absurd hs (split_ne_nil cs)
    | cons t rest =>
      rw [hs] at h ih
      by_cases hc : c = '/'
      · rw [if_pos hc] at h
        rcases List.mem_cons.1 h with rfl | h
        · simp
        · exact ih h
      · rw [if_neg hc] at h
        rcases List.mem_cons.1 h with rfl | h
        · simpa using ⟨Ne.symm hc, ih List.mem_cons_self⟩
        · exact ih (List.mem_cons_of_mem _ h)

/-- A text without a slash is its own only segment. -/
theorem split_eq_singleton {s : List Char} (h : '/' ∉ s) : split s = [s] := by
  induction s with
  | nil => rfl
  | cons c cs ih =>
    simp only [List.mem_cons, not_or] at h
    rw [split, if_neg (Ne.symm h.1), ih h.2]

/-- A slash separates the segments of the text before it from those of the text after it. -/
theorem split_append (cs ds : List Char) : split (cs ++ '/' :: ds) = split cs ++ split ds := by
  induction cs with
  | nil => simp [split]
  | cons c cs ih =>
    rw [List.cons_append, split, split, ih]
    by_cases hc : c = '/'
    · simp [hc]
    · cases hs : split cs with
      | nil => exact absurd hs (split_ne_nil cs)
      | cons s rest => simp [hc]

/-- A slash separates the segment before it from those after it. -/
theorem split_append_slash {s : List Char} (h : '/' ∉ s) (cs : List Char) :
    split (s ++ '/' :: cs) = s :: split cs := by
  rw [split_append, split_eq_singleton h]
  rfl

/-- The characters of the segments are those of the text without the slashes. -/
theorem exists_mem_split_iff {cs : List Char} {c : Char} :
    (∃ s ∈ split cs, c ∈ s) ↔ c ∈ cs ∧ c ≠ '/' := by
  induction cs with
  | nil => simp [split]
  | cons d cs ih =>
    rw [split]
    cases hs : split cs with
    | nil => exact absurd hs (split_ne_nil cs)
    | cons s rest =>
      rw [hs] at ih
      simp only [List.mem_cons, exists_eq_or_imp] at ih ⊢
      by_cases hd : d = '/'
      · subst hd
        simp only [↓reduceIte, List.mem_cons, exists_eq_or_imp, List.not_mem_nil, false_or, ih]
        exact ⟨fun ⟨hc, hne⟩ => ⟨.inr hc, hne⟩, fun ⟨hc, hne⟩ => ⟨hc.resolve_left hne, hne⟩⟩
      · simp only [hd, ↓reduceIte, List.mem_cons, exists_eq_or_imp, or_assoc, ih]
        constructor
        · rintro (rfl | ⟨hc, hne⟩)
          · exact ⟨.inl rfl, hd⟩
          · exact ⟨.inr hc, hne⟩
        · rintro ⟨hc | hc, hne⟩
          · exact .inl hc
          · exact .inr ⟨hc, hne⟩

/-- The text of some segments and that of some more. -/
theorem join_append {ss ts : List (List Char)} (hs : ss ≠ []) (ht : ts ≠ []) :
    join (ss ++ ts) = join ss ++ '/' :: join ts := by
  induction ss with
  | nil => exact absurd rfl hs
  | cons s ss ih =>
    cases ss with
    | nil =>
      obtain ⟨t, ts, rfl⟩ := List.exists_cons_of_ne_nil ht
      rfl
    | cons s' ss =>
      have htail := ih (List.cons_ne_nil s' ss)
      rw [List.cons_append] at htail
      rw [List.cons_append, List.cons_append, join, htail, join, List.append_assoc, List.cons_append]

/-- Segments without slashes are read back from their text. -/
theorem split_join {ss : List (List Char)} (hne : ss ≠ []) (h : ∀ s ∈ ss, '/' ∉ s) :
    split (join ss) = ss := by
  induction ss with
  | nil => exact absurd rfl hne
  | cons s rest ih =>
    have hs := h s List.mem_cons_self
    cases rest with
    | nil => exact split_eq_singleton hs
    | cons t rest =>
      rw [join, split_append_slash hs, ih (by simp) fun u hu => h u (List.mem_cons_of_mem _ hu)]

/-- Nothing stands after a slash at the end of a text, and nothing in the empty text. -/
theorem last_eq_nil_iff {cs : List Char} :
    last cs = [] ↔ cs = [] ∨ cs.getLast? = some '/' := by
  constructor
  · intro h
    obtain ⟨before, s, hs⟩ : ∃ before s, split cs = before ++ [s] :=
      ⟨_, _, (List.dropLast_concat_getLast (split_ne_nil cs)).symm⟩
    obtain rfl : s = [] := by rw [← h, last, hs, List.getLastD_concat]
    have hjoin := join_split cs
    rw [hs] at hjoin
    by_cases hbefore : before = []
    · refine .inl ?_
      rw [← hjoin, hbefore]
      rfl
    · refine .inr ?_
      rw [← hjoin, join_append hbefore (by simp)]
      simp [join]
  · rintro (rfl | h)
    · rfl
    · obtain ⟨front, rfl⟩ := List.getLast?_eq_some_iff.1 h
      rw [last, split_append]
      simp [split]

end BuildPackage.Segments
