set_option relaxedAutoImplicit false
set_option autoImplicit false

/-!
# Declared attribute types

The types that a rule class declares for its attributes. A label may be declared not to be a
dependency, and a label or a list of labels may be declared to be an output of the rule.

## Main definitions

* `BuildPackage.AttributeType` — the declared types.
* `BuildPackage.AttributeType.ofName?` — the type of a name in a registry.
-/

namespace BuildPackage

/-- A type that a rule class declares for an attribute. -/
inductive AttributeType where
  | integer
  | string
  | label
  | nodepLabel
  | output
  | stringList
  | labelList
  | nodepLabelList
  | outputList
  | distributionSet
  | license
  | stringDict
  | filesetEntryList
  | labelListDict
  | stringListDict
  | boolean
  | tristate
  deriving DecidableEq, Repr

namespace AttributeType

/-- Whether the labels of the attribute are outputs of its rule. -/
def isOutput : AttributeType → Bool
  | output | outputList => true
  | _ => false

/-- The type of a name. Integers and truth values have a short name as well. -/
def ofName? : String → Option AttributeType
  | "int" => some integer
  | "integer" => some integer
  | "string" => some string
  | "label" => some label
  | "nodep_label" => some nodepLabel
  | "output" => some output
  | "string_list" => some stringList
  | "label_list" => some labelList
  | "nodep_label_list" => some nodepLabelList
  | "output_list" => some outputList
  | "distribution_set" => some distributionSet
  | "license" => some license
  | "string_dict" => some stringDict
  | "fileset_entry_list" => some filesetEntryList
  | "label_list_dict" => some labelListDict
  | "string_list_dict" => some stringListDict
  | "boolean" => some boolean
  | "bool" => some boolean
  | "tristate" => some tristate
  | _ => none

end AttributeType

end BuildPackage
