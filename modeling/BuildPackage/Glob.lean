import BuildPackage.Text.Quoted

set_option relaxedAutoImplicit false
set_option autoImplicit false

/-!
# Lists with glob provenance

A list attribute remembers how it was declared: each part either item by item or by a call of `glob`
with patterns. The provenance is for people. Two lists with the same items are the same to every
consumer, whatever their provenance.

## Main definitions

* `BuildPackage.GlobCriteria` — how one part of a list was declared.
* `BuildPackage.GlobCriteria.text` — the declaration as it would stand in a build file.
* `BuildPackage.GlobList` — items with their provenance.
-/

namespace BuildPackage

/-- How one part of a list was declared. -/
inductive GlobCriteria where
  /-- Item by item. -/
  | explicit (included : List String)
  /-- By patterns of what is in the list and of what is not. -/
  | glob (included excluded : List String)
  deriving DecidableEq, Repr

namespace GlobCriteria

/-- Whether patterns were used. -/
def isGlob : GlobCriteria → Bool
  | explicit _ => false
  | glob _ _ => true

/-- The items or the patterns of what is in the list. -/
def included : GlobCriteria → List String
  | explicit included => included
  | glob included _ => included

/-- The patterns of what is not in the list. -/
def excluded : GlobCriteria → List String
  | explicit _ => []
  | glob _ excluded => excluded

/-- The characters of the declaration: a list of quoted texts, or a call of `glob` that leaves out an
empty list of exclusions. -/
def chars : GlobCriteria → List Char
  | explicit included => Quoted.list included
  | glob included [] => "glob(".toList ++ Quoted.list included ++ [')']
  | glob included excluded =>
    "glob(".toList ++ Quoted.list included ++ ", exclude=".toList ++ Quoted.list excluded ++ [')']

/-- The declaration as it would stand in a build file. -/
def text (c : GlobCriteria) : String := String.ofList c.chars

instance : ToString GlobCriteria := ⟨text⟩

end GlobCriteria

/-- Items with their provenance, if it was recorded. -/
structure GlobList (α : Type) where
  /-- The items. -/
  items : List α
  /-- How the parts of the list were declared. -/
  criteria : Option (List GlobCriteria)
  deriving Inhabited

namespace GlobList

variable {α : Type}

/-- Lists are compared by their items alone. -/
instance [BEq α] : BEq (GlobList α) := ⟨fun a b => a.items == b.items⟩

/-- Items without provenance. -/
def plain (items : List α) : GlobList α := ⟨items, none⟩

/-- The number of items. -/
def size (l : GlobList α) : Nat := l.items.length

/-- Whether a part of the list was declared by patterns. -/
def hasGlob (l : GlobList α) : Bool := (l.criteria.getD []).any GlobCriteria.isGlob

end GlobList

end BuildPackage
