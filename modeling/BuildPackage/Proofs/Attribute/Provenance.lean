import BuildPackage.Attribute.OfWire
import BuildPackage.Proofs.Outcome

set_option relaxedAutoImplicit false
set_option autoImplicit false

/-!
# Attributes without provenance

How the parts of a list were declared is recorded with the list and is otherwise of no account: it
is not looked at when attributes are read, when their labels are collected, or when they are
compared. Each of these therefore comes to the same for an attribute whose provenance has been
forgotten.

## Main definitions

* `BuildPackage.Wire.Attribute.bare` — an attribute of a message without the provenance.
* `BuildPackage.AttributeValue.bare`, `BuildPackage.Attribute.bare` — what is decoded, without it.

## Main results

* `BuildPackage.Attribute.ofWire_bare` — reading commutes with forgetting.
* `BuildPackage.AttributeValue.labels_bare` — the labels of a value do not depend on provenance.
* `BuildPackage.Attribute.beq_bare` — comparing does not look at provenance.
-/

namespace BuildPackage

/-! ## Comparisons

Paths are compared by their components, and lists by their items, so comparing is not deciding
equality. It is reflexive all the same. -/

instance : ReflBEq Path where
  rfl := beq_self_eq_true (α := List Path.Component) _

deriving instance ReflBEq for Location

/-- Comparing lists comes to the same after a change of the elements that comparing them does not
look at. -/
lemma beq_map_map {α : Type} [BEq α] {f : α → α} (hf : ∀ a b, (f a == f b) = (a == b))
    (l l' : List α) : (l.map f == l'.map f) = (l == l') := by
  induction l generalizing l' with
  | nil => cases l' <;> rfl
  | cons a l ih =>
    cases l' with
    | nil => rfl
    | cons a' l' => simp only [List.map_cons, List.cons_beq_cons, hf, ih]

/-! ## Lists -/

namespace GlobList

variable {α : Type}

/-- The items of a list without their provenance. -/
def bare (l : GlobList α) : GlobList α := plain l.items

instance [BEq α] [ReflBEq α] : ReflBEq (GlobList α) where
  rfl := beq_self_eq_true (α := List α) _

end GlobList

/-! ## Values -/

/-- An attribute of a message without the provenance of its list. -/
def Wire.Attribute.bare (a : Wire.Attribute) : Wire.Attribute := { a with globCriteria := [] }

namespace AttributeValue

/-- A value without the provenance of its list, if it is one. -/
def bare : AttributeValue → AttributeValue
  | stringList items => stringList items.bare
  | labelList items => labelList items.bare
  | value => value

/-- The labels of a value do not depend on its provenance. -/
@[simp] lemma labels_bare (v : AttributeValue) : v.bare.labels = v.labels := by
  cases v <;> rfl

/-- Comparing values does not look at their provenance. -/
@[simp] theorem beq_bare (v v' : AttributeValue) : (v.bare == v'.bare) = (v == v') := by
  cases v <;> cases v' <;> rfl

instance : ReflBEq AttributeValue where
  rfl {v} := by
    show beq v v = true
    cases v <;> exact beq_self_eq_true _

lemma labelListOfWire_bare (a : Wire.Attribute) :
    labelListOfWire a.bare = bare <$> labelListOfWire a := by
  simp only [labelListOfWire, map_bind, map_pure]
  rfl

/-- A payload without its provenance is read as the value without its provenance.

**Proof sketch.** The payloads are looked at one by one. Provenance is attached to the two kinds of
lists, after their items have been read; no other payload has any. -/
theorem ofWire_bare (declared : AttributeType) (a : Wire.Attribute) :
    ofWire declared a.bare = bare <$> ofWire declared a := by
  have hcode : Encoding.ofCode? a.bare.discriminator = Encoding.ofCode? a.discriminator := rfl
  rw [ofWire, ofWire, hcode]
  cases Encoding.ofCode? a.discriminator with
  | none => rfl
  | some encoding =>
    cases encoding with
    | integer | stringDict | stringListDict | boolean => rfl
    | string =>
      dsimp only
      split_ifs
      · exact Outcome.map_eq_map_map _ fun _ => rfl
      · rfl
    | stringList =>
      dsimp only
      split_ifs
      · exact labelListOfWire_bare a
      · rfl
    | labelList | outputList => exact labelListOfWire_bare a
    | label | output | distributionSet | license | filesetEntryList | labelListDict | tristate =>
      exact Outcome.map_eq_map_map _ fun _ => rfl

end AttributeValue

/-- A decoded attribute without the provenance of its value. -/
def Attribute.bare (a : Attribute) : Attribute := { a with value := a.value.bare }

namespace Attribute

/-- Comparing attributes does not look at their provenance. -/
@[simp] theorem beq_bare (a a' : Attribute) : (a.bare == a'.bare) = (a == a') := by
  show (a.value.bare == a'.value.bare && _) = (a.value == a'.value && _)
  rw [AttributeValue.beq_bare]

/-- An attribute without provenance is read as the attribute without provenance. -/
theorem ofWire_bare (declared : AttributeType) (buildFile : Path) (a : Wire.Attribute) :
    ofWire declared buildFile a.bare = bare <$> ofWire declared buildFile a := by
  rw [ofWire, AttributeValue.ofWire_bare]
  simp [ofWire, bare, Wire.Attribute.bare]

end Attribute

deriving instance ReflBEq for Attribute

end BuildPackage
