import BuildPackage.Proofs.Outcome
import Mathlib.Data.List.Dedup
import Mathlib.Data.List.Induction
import Mathlib.Data.String.Basic
import Std.Data.ExtTreeMap.Lemmas

set_option relaxedAutoImplicit false
set_option autoImplicit false

/-!
# Entries by name

A map that is made from a list of entries holds one entry for each name: the last one. The entries
of a map come in the order of their names, so reading them one by one keeps the names, and the first
entry that is refused is the one with the least name.

## Main definitions

* `BuildPackage.LastEntry` — the entry of a name that counts.

## Main results

* `BuildPackage.getElem?_ofList_eq_some_iff` — a map of a list holds the entries that count.
* `BuildPackage.getElem?_ofList_of_forall₂` — a map of entries that are read from those of a map.
* `BuildPackage.firstRefused_toList_iff` — the first refused entry of a map is the least one.
-/

namespace BuildPackage

variable {α : Type}

/-! ## Entries that count -/

/-- An entry of a list that no later entry of the same name replaces. -/
def LastEntry (entries : List (String × α)) (name : String) (value : α) : Prop :=
  ∃ before after, entries = before ++ (name, value) :: after ∧ name ∉ after.map Prod.fst

lemma not_lastEntry_nil {name : String} {value : α} : ¬ LastEntry [] name value := by
  rintro ⟨before, after, h, -⟩
  simp at h

/-- One more entry at the end counts, and takes the place of those of its name. -/
lemma lastEntry_append_singleton {entries : List (String × α)} {e : String × α} {name : String}
    {value : α} : LastEntry (entries ++ [e]) name value ↔
      if e.1 = name then e.2 = value else LastEntry entries name value := by
  constructor
  · rintro ⟨before, after, h, hnew⟩
    rcases List.eq_nil_or_concat after with rfl | ⟨after, e', rfl⟩
    · obtain ⟨rfl, he⟩ := List.append_inj' h rfl
      obtain rfl := List.singleton_inj.1 he
      rw [if_pos rfl]
    · rw [List.concat_eq_append] at h hnew
      rw [← List.cons_append, ← List.append_assoc] at h
      obtain ⟨rfl, he⟩ := List.append_inj' h rfl
      obtain rfl := List.singleton_inj.1 he
      rw [List.map_append, List.mem_append, not_or, List.map_singleton, List.mem_singleton] at hnew
      rw [if_neg (Ne.symm hnew.2)]
      exact ⟨before, after, rfl, hnew.1⟩
  · intro h
    split_ifs at h with hname
    · exact ⟨entries, [], by rw [← hname, ← h], by simp⟩
    · obtain ⟨before, after, rfl, hnew⟩ := h
      refine ⟨before, after ++ [e], by simp, ?_⟩
      rw [List.map_append, List.mem_append, not_or, List.map_singleton, List.mem_singleton]
      exact ⟨hnew, Ne.symm hname⟩

/-- A map of a list holds under each name the entry that counts.

**Proof sketch.** Induction from the end: the last entry is put into the map of those before it. -/
theorem getElem?_ofList_eq_some_iff {entries : List (String × α)} {name : String} {value : α} :
    (Std.ExtTreeMap.ofList entries)[name]? = some value ↔ LastEntry entries name value := by
  induction entries using List.reverseRecOn with
  | nil => exact iff_of_false (by simp) not_lastEntry_nil
  | append_singleton entries e ih =>
    rw [lastEntry_append_singleton, ← ih, Std.ExtTreeMap.ofList_eq_insertMany_empty,
      Std.ExtTreeMap.insertMany_append, Std.ExtTreeMap.insertMany_list_singleton,
      Std.ExtTreeMap.getElem?_insert, Std.ExtTreeMap.ofList_eq_insertMany_empty]
    simp only [Std.LawfulEqCmp.compare_eq_iff_eq]
    split_ifs <;> simp

/-- A function of the values changes nothing about which entries count. -/
lemma lastEntry_map_iff {β : Type} {f : α → β} {entries : List (String × α)} {name : String}
    {value : β} : LastEntry (entries.map fun e => (e.1, f e.2)) name value ↔
      ∃ v, LastEntry entries name v ∧ f v = value := by
  induction entries using List.reverseRecOn with
  | nil => simp [not_lastEntry_nil]
  | append_singleton entries e ih =>
    rw [List.map_append, List.map_singleton]
    simp only [lastEntry_append_singleton]
    split_ifs
    · simp
    · exact ih

/-- If no name is repeated, every entry counts. -/
lemma getElem?_ofList_of_nodup {entries : List (String × α)} (h : (entries.map Prod.fst).Nodup)
    {name : String} {value : α} :
    (Std.ExtTreeMap.ofList entries)[name]? = some value ↔ (name, value) ∈ entries := by
  rw [getElem?_ofList_eq_some_iff]
  constructor
  · rintro ⟨before, after, rfl, -⟩
    simp
  · intro hmem
    obtain ⟨before, after, rfl⟩ := List.append_of_mem hmem
    rw [List.map_append, List.map_cons] at h
    exact ⟨before, after, rfl, (List.nodup_cons.1 (List.nodup_append.1 h).2.1).1⟩

/-- A map of a list has one entry for each name. -/
lemma size_ofList (entries : List (String × α)) :
    (Std.ExtTreeMap.ofList entries).size = (entries.map Prod.fst).dedup.length := by
  have hsame : (Std.ExtTreeMap.ofList entries).keys.Perm (entries.map Prod.fst).dedup := by
    refine (List.perm_ext_iff_of_nodup Std.ExtTreeMap.nodup_keys (List.nodup_dedup _)).2
      fun name => ?_
    rw [Std.ExtTreeMap.mem_keys, Std.ExtTreeMap.mem_ofList, List.contains_iff_mem, List.mem_dedup]
  rw [← Std.ExtTreeMap.length_keys, hsame.length_eq]

/-! ## Entries of maps in order -/

section

variable {m : Std.ExtTreeMap String α}

/-- The entries of a map come in the order of their names. -/
lemma pairwise_names_toList (m : Std.ExtTreeMap String α) :
    m.toList.Pairwise fun e e' => e.1 < e'.1 :=
  Std.ExtTreeMap.ordered_keys_toList.imp compare_lt_iff_lt.1

lemma nodup_names_toList (m : Std.ExtTreeMap String α) : (m.toList.map Prod.fst).Nodup :=
  List.pairwise_map.2 ((pairwise_names_toList m).imp fun h => h.ne)

lemma forall_mem_toList_iff {P : String × α → Prop} :
    (∀ e ∈ m.toList, P e) ↔ ∀ name value, m[name]? = some value → P (name, value) := by
  simp only [Prod.forall, Std.ExtTreeMap.mem_toList_iff_getElem?_eq_some]

section

variable {β : Type} {R : String → α → β → Prop} {read : List (String × β)}

/-- Reading the entries of a map keeps their names. -/
lemma names_of_forall₂_toList
    (h : List.Forall₂ (fun e e' => e.1 = e'.1 ∧ R e.1 e.2 e'.2) m.toList read) :
    read.map Prod.fst = m.toList.map Prod.fst := by
  rw [← List.forall₂_eq_eq_eq, List.forall₂_map_left_iff, List.forall₂_map_right_iff]
  exact h.flip.imp fun _ _ hread => hread.1.symm

/-- The map of the entries that are read from those of a map, one by one. -/
lemma getElem?_ofList_of_forall₂
    (h : List.Forall₂ (fun e e' => e.1 = e'.1 ∧ R e.1 e.2 e'.2) m.toList read)
    (hunique : ∀ name a b b', R name a b → R name a b' → b = b') {name : String} {b : β} :
    (Std.ExtTreeMap.ofList read)[name]? = some b ↔ ∃ a, m[name]? = some a ∧ R name a b := by
  have hpartner : ∀ (e : String × α) (e' e'' : String × β), e.1 = e'.1 ∧ R e.1 e.2 e'.2 →
      e.1 = e''.1 ∧ R e.1 e.2 e''.2 → e' = e'' := by
    rintro e e' e'' ⟨hname, hread⟩ ⟨hname', hread'⟩
    exact Prod.ext (hname.symm.trans hname') (hunique _ _ _ _ hread hread')
  rw [getElem?_ofList_of_nodup (names_of_forall₂_toList h ▸ nodup_names_toList m),
    Outcome.mem_iff_of_forall₂ h hpartner]
  constructor
  · rintro ⟨⟨_, a⟩, hmem, rfl, hread⟩
    exact ⟨a, Std.ExtTreeMap.mem_toList_iff_getElem?_eq_some.1 hmem, hread⟩
  · rintro ⟨a, hmem, hread⟩
    exact ⟨(name, a), Std.ExtTreeMap.mem_toList_iff_getElem?_eq_some.2 hmem, rfl, hread⟩

/-- It has as many entries. -/
lemma size_ofList_of_forall₂
    (h : List.Forall₂ (fun e e' => e.1 = e'.1 ∧ R e.1 e.2 e'.2) m.toList read) :
    (Std.ExtTreeMap.ofList read).size = m.size := by
  rw [size_ofList, names_of_forall₂_toList h, (nodup_names_toList m).dedup, List.length_map,
    Std.ExtTreeMap.length_toList]

end

/-- The first entry of a map that is refused is the one with the least name. -/
theorem firstRefused_toList_iff {ε : Type} {accepted : String × α → Prop}
    {refused : String × α → ε → Prop} {reason : ε} :
    Outcome.FirstRefused accepted refused m.toList reason ↔
      ∃ name value, m[name]? = some value ∧ refused (name, value) reason ∧
        ∀ name' value', m[name']? = some value' → ¬ accepted (name', value') → name ≤ name' := by
  have hsorted := pairwise_names_toList m
  constructor
  · rintro ⟨before, ⟨name, value⟩, after, hsplit, hbefore, hrefused⟩
    refine ⟨name, value, Std.ExtTreeMap.mem_toList_iff_getElem?_eq_some.1 (by simp [hsplit]),
      hrefused, fun name' value' hmem hnot => ?_⟩
    rw [← Std.ExtTreeMap.mem_toList_iff_getElem?_eq_some, hsplit, List.mem_append,
      List.mem_cons] at hmem
    rw [hsplit, List.pairwise_append, List.pairwise_cons] at hsorted
    rcases hmem with hmem | hmem | hmem
    · exact absurd (hbefore _ hmem) hnot
    · exact (Prod.mk.inj hmem).1.ge
    · exact (hsorted.2.1.1 _ hmem).le
  · rintro ⟨name, value, hmem, hrefused, hleast⟩
    obtain ⟨before, after, hsplit⟩ :=
      List.append_of_mem (Std.ExtTreeMap.mem_toList_iff_getElem?_eq_some.2 hmem)
    rw [hsplit, List.pairwise_append] at hsorted
    refine ⟨before, (name, value), after, hsplit, fun ⟨name', value'⟩ hbefore => ?_, hrefused⟩
    by_contra hnot
    have hlt : name' < name := hsorted.2.2 _ hbefore _ List.mem_cons_self
    have hmem' : m[name']? = some value' :=
      Std.ExtTreeMap.mem_toList_iff_getElem?_eq_some.1 (by simp [hsplit, hbefore])
    exact absurd hlt (not_lt.2 (hleast name' value' hmem' hnot))

end

end BuildPackage
