import BuildPackage.Glob
import BuildPackage.License
import BuildPackage.Location

set_option relaxedAutoImplicit false
set_option autoImplicit false

/-!
# Attribute values

The values of rule attributes after decoding: labels are checked, sets are sorted, and a list knows
how it was declared.

## Main definitions

* `BuildPackage.AttributeValue` — the values.
* `BuildPackage.AttributeValue.labels` — the labels that a value mentions.
* `BuildPackage.Attribute` — a value with the place of its declaration.
-/

namespace BuildPackage

/-- A truth value that may be left to a default. -/
inductive Tristate where
  | yes
  | no
  | auto
  deriving DecidableEq, Repr

namespace Tristate

/-- The name of a value. -/
def text : Tristate → String
  | yes => "yes"
  | no => "no"
  | auto => "auto"

/-- The value of a name. -/
def ofText? : String → Option Tristate
  | "yes" => some yes
  | "no" => some no
  | "auto" => some auto
  | _ => none

end Tristate

/-- What a fileset does with symbolic links. -/
inductive SymlinkBehavior where
  | copy
  | dereference
  deriving DecidableEq, Repr

/-- The name of a behavior. -/
def SymlinkBehavior.text : SymlinkBehavior → String
  | copy => "copy"
  | dereference => "dereference"

/-- One entry of a fileset. -/
structure FilesetEntry where
  /-- Where the files come from. -/
  source : Label
  /-- The files, or none if all files of the source are meant. -/
  files : Option (List Label)
  /-- The names that are left out, or none if no name was declared. -/
  excludes : Option (List String)
  /-- Where the files go. -/
  destination : String
  /-- What happens to symbolic links. -/
  symlinkBehavior : SymlinkBehavior
  /-- What is removed from the front of names. -/
  stripPrefix : Option String
  deriving DecidableEq

/-- The labels of an entry: the source and then the files. -/
def FilesetEntry.labels (e : FilesetEntry) : List Label := e.source :: e.files.getD []

/-- The value of an attribute. -/
inductive AttributeValue where
  | integer (value : Int32)
  | string (value : String)
  | label (value : Label)
  | stringList (items : GlobList String)
  | labelList (items : GlobList Label)
  | distributionSet (distributions : Std.ExtTreeSet Distribution)
  | license (value : License)
  | stringDict (entries : List (String × String))
  | filesetEntryList (entries : List FilesetEntry)
  | labelListDict (entries : List (String × List Label))
  | stringListDict (entries : List (String × List String))
  | boolean (value : Bool)
  | tristate (value : Tristate)

namespace AttributeValue

/-- Values are compared by kind and content. Provenance of lists does not count. -/
def beq : AttributeValue → AttributeValue → Bool
  | integer a, integer b => a == b
  | string a, string b => a == b
  | label a, label b => a == b
  | stringList a, stringList b => a == b
  | labelList a, labelList b => a == b
  | distributionSet a, distributionSet b => a == b
  | license a, license b => a == b
  | stringDict a, stringDict b => a == b
  | filesetEntryList a, filesetEntryList b => a == b
  | labelListDict a, labelListDict b => a == b
  | stringListDict a, stringListDict b => a == b
  | boolean a, boolean b => a == b
  | tristate a, tristate b => a == b
  | _, _ => false

instance : BEq AttributeValue := ⟨beq⟩

/-- The name of a value's kind. -/
def typeName : AttributeValue → String
  | integer _ => "integer"
  | string _ => "string"
  | label _ => "label"
  | stringList _ => "string_list"
  | labelList _ => "label_list"
  | distributionSet _ => "distribution_set"
  | license _ => "license"
  | stringDict _ => "string_dict"
  | filesetEntryList _ => "fileset_entry_list"
  | labelListDict _ => "label_list_dict"
  | stringListDict _ => "string_list_dict"
  | boolean _ => "boolean"
  | tristate _ => "tristate"

/-- The labels that a value mentions, in order. The exceptions of a license are not among them. -/
def labels : AttributeValue → List Label
  | label value => [value]
  | labelList items => items.items
  | filesetEntryList entries => entries.flatMap FilesetEntry.labels
  | labelListDict entries => entries.flatMap Prod.snd
  | _ => []

end AttributeValue

/-- A value with the place of its declaration. -/
structure Attribute where
  /-- The value. -/
  value : AttributeValue
  /-- Whether the build file names the attribute. -/
  explicit : Bool
  /-- Where it was declared. -/
  location : Location
  deriving BEq

end BuildPackage
