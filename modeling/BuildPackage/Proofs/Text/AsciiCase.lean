import BuildPackage.Proofs.Outcome

set_option relaxedAutoImplicit false
set_option autoImplicit false

/-!
# Texts in any ASCII case

Two texts differ at most in their ASCII case if they are the same letter by letter, where a capital
letter counts as its small one. No other characters are identified. This is what comparing the texts
in small letters decides, so a table of names in small letters can be searched for a name in any case.

## Main definitions

* `BuildPackage.IsCapitalOf` — a capital letter and its small one.
* `BuildPackage.SameInAnyCase` — texts that differ at most in their ASCII case.

## Main results

* `BuildPackage.toLower_eq_toLower_iff` — texts that are the same in small letters.
* `BuildPackage.find?_text_eq_some_iff` — a search in a table of names.
-/

namespace BuildPackage

/-- A capital letter of ASCII and its small one. -/
def IsCapitalOf (c d : Char) : Prop := 'A' ≤ c ∧ c ≤ 'Z' ∧ d.toNat = c.toNat + 32

/-- Characters that differ at most in their ASCII case. -/
def SameLetter (c d : Char) : Prop := c = d ∨ IsCapitalOf c d ∨ IsCapitalOf d c

/-- Texts that differ at most in their ASCII case. -/
def SameInAnyCase (s t : String) : Prop := List.Forall₂ SameLetter s.toList t.toList

instance : DecidableRel IsCapitalOf :=
  fun c d => inferInstanceAs (Decidable ('A' ≤ c ∧ c ≤ 'Z' ∧ d.toNat = c.toNat + 32))

instance : DecidableRel SameLetter :=
  fun c d => inferInstanceAs (Decidable (c = d ∨ IsCapitalOf c d ∨ IsCapitalOf d c))

instance : DecidableRel SameInAnyCase :=
  fun s t => inferInstanceAs (Decidable (List.Forall₂ SameLetter s.toList t.toList))

/-! ## Letters -/

/-- The number of a letter in small. -/
lemma toNat_toLower (c : Char) :
    c.toLower.toNat = if 65 ≤ c.toNat ∧ c.toNat ≤ 90 then c.toNat + 32 else c.toNat := by
  have hcapital : (c.val ≥ 'A'.val ∧ c.val ≤ 'Z'.val) ↔ 65 ≤ c.toNat ∧ c.toNat ≤ 90 := Iff.rfl
  unfold Char.toLower
  split_ifs with h hc hc
  · have hsum : (c.val + ('a'.val - 'A'.val)).toNat = (c.toNat + 32) % 2 ^ 32 :=
      UInt32.toNat_add _ _
    exact hsum.trans (Nat.mod_eq_of_lt (by omega))
  · exact absurd (hcapital.1 h) hc
  · exact absurd (hcapital.2 hc) h
  · rfl

/-- Letters are the same in small exactly if they differ at most in their case. -/
lemma char_toLower_eq_iff (c d : Char) : c.toLower = d.toLower ↔ SameLetter c d := by
  have hcapital : ∀ c d : Char, IsCapitalOf c d ↔
      65 ≤ c.toNat ∧ c.toNat ≤ 90 ∧ d.toNat = c.toNat + 32 := fun _ _ => Iff.rfl
  rw [SameLetter, hcapital, hcapital, ← Char.toNat_inj, ← Char.toNat_inj, toNat_toLower,
    toNat_toLower]
  split_ifs <;> omega

/-! ## Texts -/

/-- The letters of a text in small. -/
lemma toList_toLower (s : String) : s.toLower.toList = s.toList.map Char.toLower :=
  String.toList_map

/-- Texts are the same in small letters exactly if they differ at most in their case. -/
theorem toLower_eq_toLower_iff {s t : String} : s.toLower = t.toLower ↔ SameInAnyCase s t := by
  have hlist : ∀ cs ds : List Char,
      cs.map Char.toLower = ds.map Char.toLower ↔ List.Forall₂ SameLetter cs ds := by
    intro cs ds
    rw [← List.forall₂_eq_eq_eq, List.forall₂_map_left_iff, List.forall₂_map_right_iff]
    simp only [char_toLower_eq_iff]
  rw [← String.toList_inj, toList_toLower, toList_toLower]
  exact hlist s.toList t.toList

namespace SameInAnyCase

variable {s t u : String}

lemma refl (s : String) : SameInAnyCase s s := toLower_eq_toLower_iff.1 rfl

lemma symm (h : SameInAnyCase s t) : SameInAnyCase t s :=
  toLower_eq_toLower_iff.1 (toLower_eq_toLower_iff.2 h).symm

lemma trans (h : SameInAnyCase s t) (h' : SameInAnyCase t u) : SameInAnyCase s u :=
  toLower_eq_toLower_iff.1 ((toLower_eq_toLower_iff.2 h).trans (toLower_eq_toLower_iff.2 h'))

end SameInAnyCase

/-! ## Tables of names -/

/-- In a table of different names in small letters, a search for a text in small letters finds the
entry whose name is the text in some case. -/
theorem find?_text_eq_some_iff {α : Type} {all : List α} {text : α → String}
    (hall : ∀ a, a ∈ all) (hnodup : (all.map text).Nodup)
    (hsmall : ∀ a, ∀ c ∈ (text a).toList, c.toLower = c) {token : String} {a : α} :
    all.find? (fun a => text a == token.toLower) = some a ↔ SameInAnyCase token (text a) := by
  have hlower : (text a).toLower = text a := by
    rw [← String.toList_inj, toList_toLower]
    exact (List.map_congr_left (hsmall a)).trans (List.map_id _)
  have hfind := Outcome.find?_eq_some_iff_of_nodup hnodup token.toLower a
  rw [and_iff_right (hall a)] at hfind
  rw [← toLower_eq_toLower_iff, hlower, eq_comm (a := token.toLower)]
  exact hfind

end BuildPackage
