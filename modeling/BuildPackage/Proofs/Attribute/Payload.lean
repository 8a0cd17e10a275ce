import BuildPackage.Attribute.OfWire
import Mathlib.Tactic.Lemma

set_option relaxedAutoImplicit false
set_option autoImplicit false

/-!
# Payloads of attributes

An attribute of a message has room for payloads of all kinds, and its number selects one of them.
Reading the attribute looks at the payload selected and at nothing else: payloads of other kinds may
be there or not and may be in order or not. The declared type is looked at in two places only, where
strings may stand for labels.

## Main definitions

* `BuildPackage.Payload` — what the number of an attribute selects.
* `BuildPackage.Wire.Attribute.payload` — the payload of an attribute.
* `BuildPackage.AttributeType.AlikeFor` — declared types that read a kind of payload alike.

## Main results

* `BuildPackage.AttributeValue.ofWire_eq_of_payload_eq` — attributes of one payload are read alike.
-/

namespace BuildPackage

/-! ## Selection -/

/-- What the number of an attribute selects. -/
inductive Payload where
  /-- An integer. -/
  | integer (value : Int32)
  /-- A text: a string, a label or one of the three truth values. -/
  | text (value : String)
  /-- A list of strings or of labels, with its provenance. -/
  | list (items : List String) (criteria : List Wire.GlobCriteria)
  /-- Distribution tokens, which have no provenance. -/
  | tokens (items : List String)
  /-- A license. -/
  | license (value : Wire.License)
  /-- Strings by key. -/
  | stringDict (entries : List Wire.StringDictEntry)
  /-- Entries of a fileset. -/
  | filesetEntries (entries : List Wire.FilesetEntry)
  /-- Labels by key. -/
  | labelListDict (entries : List Wire.LabelListDictEntry)
  /-- Lists of strings by key. -/
  | stringListDict (entries : List Wire.StringListDictEntry)
  /-- A truth value. -/
  | boolean (value : Bool)
  /-- Nothing: the number has no meaning. -/
  | nothing
  deriving DecidableEq

/-- The payload that the number of an attribute selects. What is absent counts as zero, the empty
text, false or the empty license. -/
def Wire.Attribute.payload (a : Wire.Attribute) : Payload :=
  match Encoding.ofCode? a.discriminator with
  | some .integer => .integer (a.integer.getD 0)
  | some .string | some .label | some .output | some .tristate => .text (a.string.getD "")
  | some .stringList | some .labelList | some .outputList => .list a.strings a.globCriteria
  | some .distributionSet => .tokens a.strings
  | some .license => .license (a.license.getD {})
  | some .stringDict => .stringDict a.stringDict
  | some .filesetEntryList => .filesetEntries a.filesetEntries
  | some .labelListDict => .labelListDict a.labelListDict
  | some .stringListDict => .stringListDict a.stringListDict
  | some .boolean => .boolean (a.boolean.getD false)
  | none => .nothing

/-- Two declared types that agree on whether strings are labels, as far as the number of an attribute
asks for it. -/
structure AttributeType.AlikeFor (code : Int32) (d e : AttributeType) : Prop where
  /-- One string. -/
  string : Encoding.ofCode? code = some .string → (d = .nodepLabel ↔ e = .nodepLabel)
  /-- A list of strings. -/
  stringList : Encoding.ofCode? code = some .stringList →
    (d = .nodepLabelList ↔ e = .nodepLabelList)

/-! ## Reading -/

namespace AttributeValue

variable {a b : Wire.Attribute} {d e : AttributeType}

lemma labelListOfWire_congr (hstrings : a.strings = b.strings)
    (hcriteria : a.globCriteria = b.globCriteria) : labelListOfWire a = labelListOfWire b := by
  rw [labelListOfWire, labelListOfWire, hstrings, hcriteria]

/-- Attributes of one name and one number are read alike if the payloads that the number selects are
the same and the declared types agree on whether strings are labels: they have the same value, or are
refused with the same error.

**Proof sketch.** The number is looked at first, and the cases are those of the payload. A case with
a text or a list comes from several numbers, of which one asks for the declared type. -/
theorem ofWire_eq_of_payload_eq (hname : a.name = b.name)
    (hcode : a.discriminator = b.discriminator) (hpayload : a.payload = b.payload)
    (htype : d.AlikeFor a.discriminator e) : ofWire d a = ofWire e b := by
  unfold Wire.Attribute.payload at hpayload
  rw [← hcode] at hpayload
  rw [ofWire, ofWire, ← hcode, ← hname]
  cases hencoding : Encoding.ofCode? a.discriminator with
  | none => rfl
  | some encoding =>
    rw [hencoding] at hpayload
    cases encoding with
    | integer =>
      have hvalue := Payload.integer.inj hpayload
      simp only [hvalue]
    | string =>
      have htext := Payload.text.inj hpayload
      simp only [htext, htype.string hencoding]
    | label | output | tristate =>
      have htext := Payload.text.inj hpayload
      simp only [htext]
    | stringList =>
      obtain ⟨hstrings, hcriteria⟩ := Payload.list.inj hpayload
      simp only [hstrings, hcriteria, htype.stringList hencoding,
        labelListOfWire_congr hstrings hcriteria]
    | labelList | outputList =>
      obtain ⟨hstrings, hcriteria⟩ := Payload.list.inj hpayload
      exact labelListOfWire_congr hstrings hcriteria
    | distributionSet =>
      have htokens := Payload.tokens.inj hpayload
      simp only [htokens]
    | license =>
      have hlicense := Payload.license.inj hpayload
      simp only [hlicense]
    | stringDict =>
      have hentries := Payload.stringDict.inj hpayload
      simp only [hentries]
    | filesetEntryList =>
      have hentries := Payload.filesetEntries.inj hpayload
      simp only [hentries]
    | labelListDict =>
      have hentries := Payload.labelListDict.inj hpayload
      simp only [hentries]
    | stringListDict =>
      have hentries := Payload.stringListDict.inj hpayload
      simp only [hentries]
    | boolean =>
      have hvalue := Payload.boolean.inj hpayload
      simp only [hvalue]

/-- A string that is no label, read once as a string and once as an output. The one attribute has a
malformed label list and a license besides, and the other one says in so many words that its text is
empty. -/
theorem ofWire_eq_of_payload_eq_of_stray_payloads :
    let a : Wire.Attribute := {
      name := "out", discriminator := 2, strings := ["no label"], license := some ⟨["?"], []⟩ }
    let b : Wire.Attribute := { name := "out", discriminator := 2, string := some "" }
    a.payload = b.payload ∧ AttributeType.AlikeFor 2 .string .output ∧
      ofWire .string a = ofWire .output b ∧ ofWire .nodepLabel a ≠ ofWire .output b := by
  intro a b
  have htype : AttributeType.AlikeFor a.discriminator .string .output :=
    ⟨fun _ => by decide, fun _ => by decide⟩
  refine ⟨by decide, htype, ofWire_eq_of_payload_eq rfl rfl (by decide) htype, ?_⟩
  intro h
  cases h

end AttributeValue

end BuildPackage
