import BuildPackage.Path
import Mathlib.Data.List.Basic

set_option relaxedAutoImplicit false
set_option autoImplicit false

/-!
# Paths below a directory

A relative name adds its components to those of the directory to which it is joined, and so the path
that comes of it lies below the directory unless the name goes up somewhere. An absolute name has
nothing to do with the directory.

## Main definitions

* `BuildPackage.Path.IsBelow` — a path that goes on from a directory and never up.
* `BuildPackage.Descends` — a name that is relative and never goes up.

## Main results

* `BuildPackage.Path.join_join` — a name below a name below a directory.
* `BuildPackage.Path.components_join` — the components of a relative name below a directory.
* `BuildPackage.Path.exists_components_join` — what a relative name adds, and when it goes up.
-/

namespace BuildPackage

/-- A name that is relative and never goes up. -/
structure Descends (name : String) : Prop where
  /-- The name does not begin at the root directory. -/
  relative : name.toList.head? ≠ some '/'
  /-- No segment is the directory above. -/
  ne_up : ['.', '.'] ∉ Segments.split name.toList

/-- A name without empty segments is relative. -/
lemma Descends.of_segments {name : String}
    (h : ∀ s ∈ Segments.split name.toList, s ≠ [] ∧ s ≠ ['.', '.']) : Descends name where
  relative hhead := by
    obtain ⟨rest, hname⟩ := List.head?_eq_some_iff.1 hhead
    refine (h [] ?_).1 rfl
    rw [hname, Segments.split, if_pos rfl]
    exact List.mem_cons_self
  ne_up hmem := (h _ hmem).2 rfl

namespace Path

variable {base p : Path} {name : String} {cs : List Char}

/-! ## Components -/

/-- The components that the segments of a text stand for. -/
def entries (cs : List Char) : List Component := (Segments.split cs).filterMap component?

/-- A slash separates the components before it from those after it. -/
lemma entries_append (cs ds : List Char) : entries (cs ++ '/' :: ds) = entries cs ++ entries ds := by
  rw [entries, Segments.split_append, List.filterMap_append]
  rfl

lemma entries_slash (cs : List Char) : entries ('/' :: cs) = entries cs := entries_append [] cs

lemma root_notMem_entries (cs : List Char) : Component.root ∉ entries cs := by
  intro h
  obtain ⟨s, -, hs⟩ := List.mem_filterMap.1 h
  unfold component? at hs
  split_ifs at hs <;> cases hs

/-- Some component leads up exactly if some segment does. -/
lemma up_mem_entries_iff : Component.up ∈ entries cs ↔ ['.', '.'] ∈ Segments.split cs := by
  rw [entries, List.mem_filterMap]
  constructor
  · rintro ⟨s, hs, hup⟩
    unfold component? at hup
    split_ifs at hup with hnone hdots
    · rwa [← hdots]
    · cases hup
  · intro h
    exact ⟨_, h, rfl⟩

/-- What a path starts from is told by its first character and its first segment. -/
lemma anatomy_fst (p : Path) :
    p.anatomy.1 =
      if p.text.toList.head? = some '/' then .root
      else if (Segments.split p.text.toList).head? = some ['.'] then .here
      else .bare := by
  unfold anatomy
  split
  · rename_i rest htext
    rw [htext]
    rfl
  · rename_i hslash
    have hhead : ¬ p.text.toList.head? = some '/' := by
      intro h
      obtain ⟨rest, h⟩ := List.head?_eq_some_iff.1 h
      exact hslash rest h
    rw [if_neg hhead]
    split
    · rename_i rest hsplit
      rw [hsplit]
      rfl
    · rename_i hdot
      rw [if_neg]
      intro h
      obtain ⟨rest, h⟩ := List.head?_eq_some_iff.1 h
      exact hdot rest h

/-- The components of a path are its start and the components of its text. -/
lemma components_eq (p : Path) :
    p.components = p.anatomy.1.components ++ entries p.text.toList := by
  have hsegments : p.anatomy.2.filterMap component? = entries p.text.toList := by
    unfold anatomy
    split
    · rename_i rest htext
      rw [htext, entries_slash]
      rfl
    · split
      · rename_i rest hsplit
        rw [entries, hsplit, List.filterMap_cons_none rfl]
      · rfl
  rw [components, hsegments]

/-- What stands behind a slash adds its components to those of the text before. -/
lemma components_append (hcs : cs ≠ []) (ds : List Char) :
    (⟨String.ofList (cs ++ '/' :: ds)⟩ : Path).components =
      (⟨String.ofList cs⟩ : Path).components ++ entries ds := by
  simp only [components_eq, anatomy_fst, String.toList_ofList, Segments.split_append,
    List.head?_append_of_ne_nil _ hcs, List.head?_append_of_ne_nil _ (Segments.split_ne_nil cs),
    entries_append, List.append_assoc]

/-- What stands behind the slash at the beginning adds its components to the root directory. -/
lemma components_slash (ds : List Char) :
    (⟨String.ofList ('/' :: ds)⟩ : Path).components = .root :: entries ds := by
  rw [components_eq, anatomy_fst]
  simp only [String.toList_ofList, List.head?_cons, ↓reduceIte, entries_slash]
  rfl

/-! ## Names below a directory -/

/-- An absolute name stands for itself. -/
lemma join_of_absolute (h : name.toList.head? = some '/') : base.join name = ⟨name⟩ := if_pos h

/-- Below the empty path a relative name stands alone. -/
lemma join_empty (h : name.toList.head? ≠ some '/') : join ⟨""⟩ name = ⟨name⟩ := by
  rw [join, if_neg h]
  simp

/-- What a name is put behind depends on its first character only. -/
lemma exists_join (base : Path) (first : Option Char) : ∃ before : String,
    ∀ name : String, name.toList.head? = first → base.join name = ⟨before ++ name⟩ := by
  by_cases hfirst : first = some '/'
  · exact ⟨"", fun name h => by rw [join_of_absolute (h.trans hfirst), String.empty_append]⟩
  · by_cases hbase : base.text.isEmpty ∨ base.text.toList.getLast? = some '/'
    · exact ⟨base.text, fun name h => by rw [join, h, if_neg hfirst, if_pos hbase]⟩
    · exact ⟨base.text ++ "/", fun name h => by rw [join, h, if_neg hfirst, if_neg hbase]⟩

/-- A name that does not end with a slash takes a relative name behind it. -/
lemma join_join {base : Path} {package part : String} (hempty : package ≠ "")
    (hlast : package.toList.getLast? ≠ some '/') (hpart : part.toList.head? ≠ some '/') :
    (base.join package).join part = base.join (package ++ "/" ++ part) := by
  have hne : package.toList ≠ [] := by simpa using hempty
  have hhead : (package ++ "/" ++ part).toList.head? = package.toList.head? := by
    rw [String.toList_append, String.toList_append, List.append_assoc,
      List.head?_append_of_ne_nil _ hne]
  obtain ⟨before, hjoin⟩ := base.exists_join package.toList.head?
  rw [hjoin package rfl, hjoin _ hhead, join, if_neg hpart, if_neg]
  · simp only [String.append_assoc]
  · rw [String.toList_append, List.getLast?_append_of_ne_nil _ hne]
    simp [hempty, hlast]

/-- A relative name adds its components to those of the directory. -/
theorem components_join (hbase : base.text ≠ "") (h : name.toList.head? ≠ some '/') :
    (base.join name).components = base.components ++ entries name.toList := by
  obtain ⟨text⟩ := base
  have hempty : ¬ text.isEmpty = true := fun he => hbase (String.isEmpty_iff.1 he)
  rw [join, if_neg h]
  by_cases hslash : text.toList.getLast? = some '/'
  · -- The slash at the end of the directory is the one in front of the name.
    rw [if_pos (.inr hslash)]
    obtain ⟨cs, htext⟩ := List.getLast?_eq_some_iff.1 hslash
    have hname : text ++ name = String.ofList (cs ++ '/' :: name.toList) := by
      rw [← String.toList_inj]
      simp [htext]
    have hdir : text = String.ofList (cs ++ '/' :: []) := by
      rw [← htext, String.ofList_toList]
    rw [hname, hdir]
    cases cs with
    | nil => rw [List.nil_append, List.nil_append, components_slash, components_slash]; rfl
    | cons c cs =>
      rw [components_append (by simp), components_append (by simp), List.append_assoc]
      rfl
  · rw [if_neg (by simp [hempty, hslash])]
    have hname : text ++ "/" ++ name = String.ofList (text.toList ++ '/' :: name.toList) := by
      rw [← String.toList_inj]
      simp
    have hne : text.toList ≠ [] := by simpa using hempty
    rw [hname, components_append hne, String.ofList_toList]

/-- A relative name below a directory goes on from it, and goes up exactly if a segment does.

**Proof sketch.** Below the empty path the name stands alone, and then it may begin with `.`, which is
a component in this place. -/
theorem exists_components_join (base : Path) (h : name.toList.head? ≠ some '/') :
    ∃ rest, (base.join name).components = base.components ++ rest ∧ .root ∉ rest ∧
      (.up ∈ rest ↔ ['.', '.'] ∈ Segments.split name.toList) := by
  by_cases hbase : base.text = ""
  · obtain ⟨text⟩ := base
    obtain rfl : text = "" := hbase
    refine ⟨(⟨name⟩ : Path).components, by rw [join_empty h]; rfl, ?_⟩
    rw [components_eq, anatomy_fst, if_neg h, ← up_mem_entries_iff]
    split_ifs <;> simp [Start.components, root_notMem_entries]
  · exact ⟨_, components_join hbase h, root_notMem_entries _, up_mem_entries_iff⟩

/-- A path goes on from a directory without starting anew and without going up. -/
def IsBelow (p base : Path) : Prop :=
  ∃ rest, p.components = base.components ++ rest ∧ .root ∉ rest ∧ .up ∉ rest

/-- Whether a path that goes on from a directory lies below it is told by what it adds. -/
lemma isBelow_iff_of_components {rest : List Component}
    (h : p.components = base.components ++ rest) : p.IsBelow base ↔ .root ∉ rest ∧ .up ∉ rest := by
  constructor
  · rintro ⟨rest', hrest, hroot, hup⟩
    obtain rfl : rest = rest' := List.append_cancel_left (h.symm.trans hrest)
    exact ⟨hroot, hup⟩
  · rintro ⟨hroot, hup⟩
    exact ⟨rest, h, hroot, hup⟩

end Path

end BuildPackage
