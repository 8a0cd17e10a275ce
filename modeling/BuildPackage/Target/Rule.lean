import BuildPackage.Attribute.OfWire
import Std.Data.ExtTreeMap.Lemmas

set_option relaxedAutoImplicit false
set_option autoImplicit false

/-!
# Rules and rule classes

A rule class declares the attributes that its rules may have, each with a type. A rule is made from
its class: the labels of its output attributes are its outputs.

## Main definitions

* `BuildPackage.RuleClass` — a class with its declared attributes.
* `BuildPackage.Registry` — the known classes.
* `BuildPackage.Rule` — a label with attributes and outputs.
* `BuildPackage.RuleClass.makeRule` — a rule of a class.
* `BuildPackage.RuleClass.readAttributes` — the attributes of a message.
-/

namespace BuildPackage

/-! ## Rule classes -/

/-- A rule class with the types of its attributes. -/
structure RuleClass where
  /-- The name. -/
  name : String
  /-- The declared attributes with their types. -/
  attributes : Std.ExtTreeMap String AttributeType
  deriving DecidableEq

namespace RuleClass

/-- The declared type of an attribute. -/
def attributeType? (c : RuleClass) (name : String) : Option AttributeType :=
  c.attributes[name]?

/-- The declared type of an attribute, or the error that it is not declared. -/
def attributeType (c : RuleClass) (name : String) : Except DecodeError AttributeType :=
  match c.attributeType? name with
  | some type => .ok type
  | none => .error (.unknownAttribute c.name name)

end RuleClass

/-- The known rule classes: the declared attributes of each, by the name of the class. -/
structure Registry where
  /-- The declared attributes by class. -/
  declarations : Std.ExtTreeMap String (Std.ExtTreeMap String AttributeType)
  deriving DecidableEq, Inhabited

namespace Registry

/-- The registry without classes. -/
def empty : Registry := ⟨∅⟩

/-- Makes a class known. It takes the place of an earlier class of the same name. -/
def register (r : Registry) (c : RuleClass) : Registry :=
  ⟨r.declarations.insert c.name c.attributes⟩

/-- The class of a name. -/
def ruleClass? (r : Registry) (name : String) : Option RuleClass :=
  r.declarations[name]?.map fun attributes => ⟨name, attributes⟩

/-- The number of classes. -/
def size (r : Registry) : Nat := r.declarations.size

/-- Whether no class is known. -/
def isEmpty (r : Registry) : Bool := r.declarations.isEmpty

end Registry

/-! ## Rules -/

/-- A rule of a package. -/
structure Rule where
  /-- The label. -/
  label : Label
  /-- The name of the rule class. -/
  ruleClass : String
  /-- Where the rule was declared. -/
  location : Location
  /-- The attributes by name. -/
  attributes : Std.ExtTreeMap String Attribute
  /-- The labels of the files that the rule makes. -/
  outputs : List Label

namespace Rule

/-- Rules are compared part by part, and attribute by attribute in the order of their names. -/
def beq (a b : Rule) : Bool :=
  a.label == b.label && a.ruleClass == b.ruleClass && a.location == b.location &&
    a.attributes.toList == b.attributes.toList && a.outputs == b.outputs

instance : BEq Rule := ⟨beq⟩

/-- The target name. -/
def name (r : Rule) : String := r.label.name

/-- The attribute of a name. -/
def attribute? (r : Rule) (name : String) : Option Attribute := r.attributes[name]?

/-- The value of an attribute. -/
def value? (r : Rule) (name : String) : Option AttributeValue :=
  (r.attribute? name).map Attribute.value

end Rule

namespace RuleClass

/-- The outputs that an attribute contributes: its labels if it is declared to be an output. -/
def outputsOf (c : RuleClass) (entry : String × Attribute) : Except DecodeError (List Label) :=
  return if (← c.attributeType entry.1).isOutput then entry.2.value.labels else []

/-- A rule of a class. Its outputs are those of its attributes in the order of their names. -/
def makeRule (c : RuleClass) (label : Label) (location : Location)
    (attributes : Std.ExtTreeMap String Attribute) : Except DecodeError Rule :=
  return {
    label, location, attributes
    ruleClass := c.name
    outputs := (← attributes.toList.mapM c.outputsOf).flatten }

/-- Reads one more attribute of a message. Of two attributes with one name the later counts. -/
def readAttribute (c : RuleClass) (buildFile : Path) (attributes : Std.ExtTreeMap String Attribute)
    (a : Wire.Attribute) : Except DecodeError (Std.ExtTreeMap String Attribute) :=
  return attributes.insert a.name
    (← Attribute.ofWire (← c.attributeType a.name) buildFile a)

/-- The attributes of a message, in a build file. Each has to be declared and to decode, also one
that a later attribute replaces. -/
def readAttributes (c : RuleClass) (buildFile : Path) (attributes : List Wire.Attribute) :
    Except DecodeError (Std.ExtTreeMap String Attribute) :=
  attributes.foldlM (c.readAttribute buildFile) ∅

end RuleClass

end BuildPackage
