import BuildPackage.Attribute.OfWire
import BuildPackage.Proofs.Label.Reading
import BuildPackage.Proofs.Outcome

set_option relaxedAutoImplicit false
set_option autoImplicit false

/-!
# Spellings of the labels in attributes

Labels stand in licenses, in fileset entries, in dictionaries, and in the strings of an attribute as
far as its kind and its declared type say so. Whichever of them are written in full, the attribute
is read as before.

## Main definitions

* `BuildPackage.Wire.License.Expands`, `BuildPackage.Wire.FilesetEntry.Expands` — parts in which
  some labels are written in full.
* `BuildPackage.Wire.Attribute.StringIsLabel`, `BuildPackage.Wire.Attribute.StringsAreLabels` — the
  attributes whose strings are labels.
* `BuildPackage.Wire.Attribute.Expands` — an attribute in which some labels are written in full.

## Main results

* `BuildPackage.readLabels_expands`, `BuildPackage.License.ofWire_expands`,
  `BuildPackage.FilesetEntry.ofWire_expands` — the parts are read as before.
* `BuildPackage.AttributeValue.ofWire_expands` — the value is read as before.
-/

namespace BuildPackage

/-! ## Labels -/

/-- A label in full is read as the label. -/
lemma readLabel_expands {text text' : String} (h : Label.Expands text text') :
    readLabel text' = readLabel text := by
  rw [readLabel, readLabel, h.parse_eq]

/-- A label that may be missing is read as before when it is written in full. -/
lemma readLabel_getD_expands {text text' : Option String}
    (h : Option.Rel Label.Expands text text') :
    readLabel (text'.getD "") = readLabel (text.getD "") := by
  cases h with
  | none => rfl
  | some ht => exact readLabel_expands ht

/-- Labels in full are read as the labels. -/
lemma readLabels_expands {texts texts' : List String}
    (h : List.Forall₂ Label.Expands texts texts') : readLabels texts' = readLabels texts := by
  have hall : Label.parseAll texts = Label.parseAll texts' :=
    Outcome.mapM_congr (h.imp fun _ _ ht => ht.parse_eq.symm)
  rw [readLabels, readLabels, hall]

/-! ## Licenses -/

/-- A token that is another one, or excepts the same label in full. -/
inductive License.Token.Expands : String → String → Prop
  /-- The token is left as it is. -/
  | same (token : String) : Expands token token
  /-- The label of an exception is written in full. -/
  | exception {text text' : String} (label : Label.Expands text text') :
      Expands (License.exceptionMark ++ text) (License.exceptionMark ++ text')

/-- A license in which labels of some exceptions are written in full. -/
structure Wire.License.Expands (l l' : Wire.License) : Prop where
  /-- The tokens differ in labels of exceptions only. -/
  types : List.Forall₂ License.Token.Expands l.types l'.types
  /-- The exceptions are the labels, some of them in full. -/
  exceptions : List.Forall₂ Label.Expands l.exceptions l'.exceptions

/-- What stands behind the mark of an exception counts as a label only. -/
lemma License.Token.parse_expands {token token' : String} (h : Expands token token') :
    parse token' = parse token := by
  cases h with
  | same => rfl
  | exception label =>
    simp only [parse, String.toList_append, if_pos (List.prefix_append _ _), List.drop_left,
      String.ofList_toList, label.parse_eq]

/-- A license with exceptions in full is read as the license. -/
lemma License.ofWire_expands {l l' : Wire.License} (h : l.Expands l') :
    License.ofWire l' = License.ofWire l := by
  have hexceptions : List.Forall₂ Token.Expands (l.exceptions.map (exceptionMark ++ ·))
      (l'.exceptions.map (exceptionMark ++ ·)) := by
    rw [List.forall₂_map_left_iff, List.forall₂_map_right_iff]
    exact h.exceptions.imp fun _ _ => .exception
  have htokens := List.rel_append h.types hexceptions
  have hparse : (l.types ++ l.exceptions.map (exceptionMark ++ ·)).mapM Token.parse =
      (l'.types ++ l'.exceptions.map (exceptionMark ++ ·)).mapM Token.parse :=
    Outcome.mapM_congr (htokens.imp fun _ _ ht => (Token.parse_expands ht).symm)
  simp only [ofWire, parse, hparse]

/-- A license that may be missing is read as before when its exceptions are written in full. -/
lemma License.ofWire_getD_expands {l l' : Option Wire.License}
    (h : Option.Rel Wire.License.Expands l l') :
    License.ofWire (l'.getD {}) = License.ofWire (l.getD {}) := by
  cases h with
  | none => rfl
  | some hl => exact ofWire_expands hl

/-! ## Entries -/

/-- A fileset entry in which some labels are written in full. -/
structure Wire.FilesetEntry.Expands (e e' : Wire.FilesetEntry) : Prop where
  /-- Nothing but labels differs. -/
  rest : { e' with source := e.source, files := e.files } = e
  /-- The source is the label, perhaps in full. -/
  source : Label.Expands e.source e'.source
  /-- The files are the labels, some of them in full. -/
  files : List.Forall₂ Label.Expands e.files e'.files

/-- A fileset entry with labels in full is read as the entry. -/
lemma FilesetEntry.ofWire_expands {e e' : Wire.FilesetEntry} (h : e.Expands e') :
    FilesetEntry.ofWire e' = FilesetEntry.ofWire e := by
  have hpresent : e'.filesPresent = e.filesPresent := congrArg (·.filesPresent) h.rest
  have hsymlink : e'.symlinkBehavior = e.symlinkBehavior := congrArg (·.symlinkBehavior) h.rest
  have hexcluded : e'.excluded = e.excluded := congrArg (·.excluded) h.rest
  have hdir : e'.destinationDirectory = e.destinationDirectory :=
    congrArg (·.destinationDirectory) h.rest
  have hstrip : e'.stripPrefix = e.stripPrefix := congrArg (·.stripPrefix) h.rest
  simp only [ofWire, hpresent, hsymlink, hexcluded, hdir, hstrip, readLabels_expands h.files,
    readLabel_expands h.source]

/-- Labels by key, of which some are written in full. -/
structure Wire.LabelListDictEntry.Expands (e e' : Wire.LabelListDictEntry) : Prop where
  /-- The key is the same. -/
  key : e'.key = e.key
  /-- The labels are the labels, some of them in full. -/
  labels : List.Forall₂ Label.Expands e.labels e'.labels

/-! ## Attributes -/

namespace Wire.Attribute

variable {declared : Option AttributeType} {a a' : Attribute}

/-- The string of an attribute is a label: its kind is a label or an output, or it is a string that
is declared to be a label without a dependency. -/
def StringIsLabel (declared : Option AttributeType) (a : Attribute) : Prop :=
  Encoding.ofCode? a.discriminator = some .label ∨
    Encoding.ofCode? a.discriminator = some .output ∨
    Encoding.ofCode? a.discriminator = some .string ∧ declared = some .nodepLabel

/-- The strings of an attribute are labels: its kind is a list of labels or of outputs, or it is a
list of strings that are declared to be labels without a dependency. -/
def StringsAreLabels (declared : Option AttributeType) (a : Attribute) : Prop :=
  Encoding.ofCode? a.discriminator = some .labelList ∨
    Encoding.ofCode? a.discriminator = some .outputList ∨
    Encoding.ofCode? a.discriminator = some .stringList ∧ declared = some .nodepLabelList

/-- An attribute in which some labels are written in full, under its declared type if it has one. -/
structure Expands (declared : Option AttributeType) (a a' : Attribute) : Prop where
  /-- Nothing but the payloads that may hold labels differs. -/
  rest : { a' with
    string := a.string, strings := a.strings, license := a.license
    filesetEntries := a.filesetEntries, labelListDict := a.labelListDict } = a
  /-- The string differs only if it is a label. -/
  string : a'.string = a.string ∨
    a.StringIsLabel declared ∧ Option.Rel Label.Expands a.string a'.string
  /-- The strings differ only if they are labels. -/
  strings : a'.strings = a.strings ∨
    a.StringsAreLabels declared ∧ List.Forall₂ Label.Expands a.strings a'.strings
  /-- The license is the license, perhaps with exceptions in full. -/
  license : Option.Rel License.Expands a.license a'.license
  /-- The fileset entries are the entries, perhaps with labels in full. -/
  filesetEntries : List.Forall₂ FilesetEntry.Expands a.filesetEntries a'.filesetEntries
  /-- The labels by key are the labels, some of them in full. -/
  labelListDict : List.Forall₂ LabelListDictEntry.Expands a.labelListDict a'.labelListDict

lemma Expands.name_eq (h : a.Expands declared a') : a'.name = a.name := congrArg (·.name) h.rest

/-- Read as a label, the string is the same. -/
lemma Expands.readLabel_string (h : a.Expands declared a') :
    readLabel (a'.string.getD "") = readLabel (a.string.getD "") := by
  obtain heq | ⟨-, hrel⟩ := h.string
  · rw [heq]
  · exact readLabel_getD_expands hrel

/-- Read as labels, the strings are the same. -/
lemma Expands.readLabels_strings (h : a.Expands declared a') :
    readLabels a'.strings = readLabels a.strings := by
  obtain heq | ⟨-, hrel⟩ := h.strings
  · rw [heq]
  · exact readLabels_expands hrel

end Wire.Attribute

namespace AttributeValue

variable {declared : AttributeType} {a a' : Wire.Attribute}

lemma labelListOfWire_expands (h : a.Expands (some declared) a') :
    labelListOfWire a' = labelListOfWire a := by
  have hcriteria : a'.globCriteria = a.globCriteria := congrArg (·.globCriteria) h.rest
  simp only [labelListOfWire, hcriteria, h.readLabels_strings]

/-- The value of an attribute with labels in full is that of the attribute.

**Proof sketch.** Kind by kind: a payload that is read as labels may have changed, and one that is
read in any other way has not. -/
theorem ofWire_expands (h : a.Expands (some declared) a') :
    ofWire declared a' = ofWire declared a := by
  have hcode : Encoding.ofCode? a'.discriminator = Encoding.ofCode? a.discriminator :=
    congrArg (fun x => Encoding.ofCode? x.discriminator) h.rest
  unfold ofWire
  rw [hcode, h.name_eq]
  cases hkind : Encoding.ofCode? a.discriminator with
  | none =>
    have hnumber : a'.discriminator = a.discriminator := congrArg (·.discriminator) h.rest
    simp only [hnumber]
  | some kind =>
    cases kind with
    | label | output => simp only [h.readLabel_string]
    | labelList | outputList => simp only [labelListOfWire_expands h]
    | string =>
      by_cases hdecl : declared = .nodepLabel
      · simp only [if_pos hdecl, h.readLabel_string]
      · have hstring : a'.string = a.string := h.string.resolve_right fun hs => by
          simp [Wire.Attribute.StringIsLabel, hkind, hdecl] at hs
        simp only [if_neg hdecl, hstring]
    | stringList =>
      by_cases hdecl : declared = .nodepLabelList
      · simp only [if_pos hdecl, labelListOfWire_expands h]
      · have hstrings : a'.strings = a.strings := h.strings.resolve_right fun hs => by
          simp [Wire.Attribute.StringsAreLabels, hkind, hdecl] at hs
        have hcriteria : a'.globCriteria = a.globCriteria := congrArg (·.globCriteria) h.rest
        simp only [if_neg hdecl, hstrings, hcriteria]
    | license => simp only [License.ofWire_getD_expands h.license]
    | filesetEntryList =>
      have hentries : a.filesetEntries.mapM FilesetEntry.ofWire =
          a'.filesetEntries.mapM FilesetEntry.ofWire :=
        Outcome.mapM_congr (h.filesetEntries.imp fun _ _ he =>
          (FilesetEntry.ofWire_expands he).symm)
      simp only [hentries]
    | labelListDict =>
      have hentry : ∀ {e e' : Wire.LabelListDictEntry}, e.Expands e' →
          (return (e.key, ← readLabels e.labels) : Except DecodeError _) =
            (return (e'.key, ← readLabels e'.labels)) := by
        intro e e' he
        rw [he.key, readLabels_expands he.labels]
      have hentries := Outcome.mapM_congr (h.labelListDict.imp fun _ _ => hentry)
      simp only [hentries]
    | distributionSet =>
      have hstrings : a'.strings = a.strings := h.strings.resolve_right fun hs => by
        simp [Wire.Attribute.StringsAreLabels, hkind] at hs
      simp only [hstrings]
    | tristate =>
      have hstring : a'.string = a.string := h.string.resolve_right fun hs => by
        simp [Wire.Attribute.StringIsLabel, hkind] at hs
      simp only [hstring]
    | integer =>
      have hinteger : a'.integer = a.integer := congrArg (·.integer) h.rest
      simp only [hinteger]
    | boolean =>
      have hboolean : a'.boolean = a.boolean := congrArg (·.boolean) h.rest
      simp only [hboolean]
    | stringDict =>
      have hentries : a'.stringDict = a.stringDict := congrArg (·.stringDict) h.rest
      simp only [hentries]
    | stringListDict =>
      have hentries : a'.stringListDict = a.stringListDict := congrArg (·.stringListDict) h.rest
      simp only [hentries]

end AttributeValue

/-- An attribute with labels in full is read as the attribute. -/
lemma Attribute.ofWire_expands {declared : AttributeType} {a a' : Wire.Attribute}
    (h : a.Expands (some declared) a') (buildFile : Path) :
    Attribute.ofWire declared buildFile a' = Attribute.ofWire declared buildFile a := by
  have hexplicit : a'.explicit = a.explicit := congrArg (·.explicit) h.rest
  have hlocation : a'.location = a.location := congrArg (·.location) h.rest
  simp only [ofWire, AttributeValue.ofWire_expands h, hexplicit, hlocation]

end BuildPackage
