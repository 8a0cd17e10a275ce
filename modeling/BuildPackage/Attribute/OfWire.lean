import BuildPackage.Attribute.Basic
import BuildPackage.Attribute.Type
import BuildPackage.Error
import BuildPackage.Wire.Message

set_option relaxedAutoImplicit false
set_option autoImplicit false

/-!
# Attributes from messages

An attribute travels with one number that tells which of its payloads counts; the others are
ignored. The declared type matters only for labels that are no dependencies, which travel as
strings. An absent payload stands for zero, the empty text, false or the empty license.

## Main definitions

* `BuildPackage.Encoding` — the kinds of payload that can be decoded.
* `BuildPackage.AttributeValue.ofWire` — the value of a payload.
* `BuildPackage.Attribute.ofWire` — a decoded attribute.
* `BuildPackage.License.ofWire`, `BuildPackage.FilesetEntry.ofWire` — decoded parts.
-/

namespace BuildPackage

/-! ## Parts -/

/-- The license of a message. Its exceptions are bare labels and are read as exception tokens after
the other tokens. -/
def License.ofWire (l : Wire.License) : Except DecodeError License :=
  (License.parse (l.types ++ l.exceptions.map (License.exceptionMark ++ ·))).mapError .license

/-- The distributions of a list of tokens. -/
def readDistributions (tokens : List String) : Except DecodeError (Std.ExtTreeSet Distribution) :=
  (Distribution.parseAll tokens).mapError .unknownDistribution

/-- The truth value of a text. -/
def readTristate (text : String) : Except DecodeError Tristate :=
  match Tristate.ofText? text with
  | some value => .ok value
  | none => .error (.tristate text)

/-- What the number of a symlink behavior stands for. Links are copied if there is none; a number
without meaning is a defect of the message. -/
def SymlinkBehavior.ofWire (value : Option Int32) : Except DecodeError SymlinkBehavior :=
  match value with
  | none => .ok .copy
  | some n =>
    if n = 1 then .ok .copy
    else if n = 2 then .ok .dereference
    else .error (.symlinkBehavior n)

/-- How a part of a list was declared. Exclusions count for patterns only. -/
def GlobCriteria.ofWire (c : Wire.GlobCriteria) : GlobCriteria :=
  if c.isGlob = some true then .glob c.included c.excluded else .explicit c.included

/-- Items with the provenance of a message, which is unknown if the message has none. -/
def GlobList.ofWire {α : Type} (items : List α) (criteria : List Wire.GlobCriteria) :
    GlobList α :=
  ⟨items, if criteria.isEmpty then none else some (criteria.map GlobCriteria.ofWire)⟩

/-- The fileset entry of a message. Files count only if they are said to be present, and an empty list
of excluded names is no list. Of several faults, the files come first and the source second. -/
def FilesetEntry.ofWire (e : Wire.FilesetEntry) : Except DecodeError FilesetEntry := do
  let files ← if e.filesPresent = some true then some <$> readLabels e.files else pure none
  let source ← readLabel e.source
  let symlinkBehavior ← SymlinkBehavior.ofWire e.symlinkBehavior
  return {
    source, files, symlinkBehavior
    excludes := if e.excluded.isEmpty then none else some e.excluded
    destination := e.destinationDirectory
    stripPrefix := e.stripPrefix }

/-! ## Values -/

/-- The kinds of payload that can be decoded. -/
inductive Encoding where
  | integer
  | string
  | label
  | output
  | stringList
  | labelList
  | outputList
  | distributionSet
  | license
  | stringDict
  | filesetEntryList
  | labelListDict
  | stringListDict
  | boolean
  | tristate
  deriving DecidableEq, Repr

/-- The kind of payload of a number. Lists of integers and two more kinds have numbers as well, but
cannot be decoded. -/
def Encoding.ofCode? (code : Int32) : Option Encoding :=
  match code.toInt with
  | 1 => some integer
  | 2 => some string
  | 3 => some label
  | 4 => some output
  | 5 => some stringList
  | 6 => some labelList
  | 7 => some outputList
  | 8 => some distributionSet
  | 9 => some license
  | 10 => some stringDict
  | 11 => some filesetEntryList
  | 12 => some labelListDict
  | 13 => some stringListDict
  | 14 => some boolean
  | 15 => some tristate
  | _ => none

namespace AttributeValue

/-- The list of labels of a payload. Its labels are read before its provenance. -/
def labelListOfWire (a : Wire.Attribute) : Except DecodeError AttributeValue :=
  return labelList (.ofWire (← readLabels a.strings) a.globCriteria)

/-- The value of a payload. A string is a label, and a list of strings a list of labels, if that is
what the attribute is declared to be. -/
def ofWire (declared : AttributeType) (a : Wire.Attribute) : Except DecodeError AttributeValue :=
  let text := a.string.getD ""
  match Encoding.ofCode? a.discriminator with
  | none => .error (.unsupportedEncoding a.name a.discriminator)
  | some .integer => .ok (integer (a.integer.getD 0))
  | some .string =>
    if declared = .nodepLabel then label <$> readLabel text else .ok (string text)
  | some .label | some .output => label <$> readLabel text
  | some .stringList =>
    if declared = .nodepLabelList then labelListOfWire a
    else .ok (stringList (.ofWire a.strings a.globCriteria))
  | some .labelList | some .outputList => labelListOfWire a
  | some .distributionSet => distributionSet <$> readDistributions a.strings
  | some .license => license <$> License.ofWire (a.license.getD {})
  | some .stringDict => .ok (stringDict (a.stringDict.map fun e => (e.key, e.value)))
  | some .filesetEntryList => filesetEntryList <$> a.filesetEntries.mapM FilesetEntry.ofWire
  | some .labelListDict =>
    labelListDict <$> a.labelListDict.mapM fun e => return (e.key, ← readLabels e.labels)
  | some .stringListDict =>
    .ok (stringListDict (a.stringListDict.map fun e => (e.key, e.strings)))
  | some .boolean => .ok (boolean (a.boolean.getD false))
  | some .tristate => tristate <$> readTristate text

end AttributeValue

/-- The attribute of a message, in a build file. -/
def Attribute.ofWire (declared : AttributeType) (buildFile : Path) (a : Wire.Attribute) :
    Except DecodeError Attribute :=
  return {
    value := ← AttributeValue.ofWire declared a
    explicit := a.explicit.getD false
    location := Location.ofWire buildFile a.location }

end BuildPackage
