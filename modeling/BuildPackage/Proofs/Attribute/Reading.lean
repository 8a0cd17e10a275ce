import BuildPackage.Attribute.OfWire
import BuildPackage.Proofs.Outcome

set_option relaxedAutoImplicit false
set_option autoImplicit false

/-!
# Attributes from messages

What reading a label, distributions, a place or an attribute succeeds with. A place keeps the numbers
of the message or has zeros instead; a value that is a dictionary keeps all its entries, in their
order and with their keys, also those that occur more than once.

## Main definitions

* `BuildPackage.Location.Renders` — a place that comes from a place of a message.
* `BuildPackage.AttributeValue.KeepsEntries` — the dictionaries of a message as values.
* `BuildPackage.Attribute.Renders` — an attribute that comes from an attribute of a message.

## Main results

* `BuildPackage.Location.renders_ofWire` — what a place is read as.
* `BuildPackage.AttributeValue.keepsEntries_of_ofWire` — no entry of a dictionary is lost.
* `BuildPackage.Attribute.renders_of_ofWire` — what an attribute is read as.
-/

namespace BuildPackage

/-! ## Labels and distributions -/

@[simp] lemma readLabel_eq_ok_iff {text : String} {l : Label} :
    readLabel text = .ok l ↔ Label.parse text = .ok l := Outcome.mapError_eq_ok_iff

@[simp] lemma readLabels_eq_ok_iff {texts : List String} {labels : List Label} :
    readLabels texts = .ok labels ↔
      List.Forall₂ (fun text l => Label.parse text = .ok l) texts labels := by
  rw [readLabels, Outcome.mapError_eq_ok_iff, Label.parseAll, Outcome.mapM_eq_ok_iff]

lemma readLabel_eq_error_iff {text : String} {e : DecodeError} :
    readLabel text = .error e ↔ ∃ error, Label.parse text = .error error ∧ .label error = e :=
  Outcome.mapError_eq_error_iff

/-- Labels are refused with the error of the first of them that is refused. -/
lemma readLabels_eq_error_iff {texts : List String} {e : DecodeError} :
    readLabels texts = .error e ↔ ∃ error,
      Outcome.FirstRefused (fun text => (Label.parse text).isOk = true)
        (fun text error => Label.parse text = .error error) texts error ∧ .label error = e := by
  rw [readLabels, Outcome.mapError_eq_error_iff]
  simp only [Label.parseAll, Outcome.mapM_eq_error_iff]

lemma isOk_readLabels_iff {texts : List String} :
    (readLabels texts).isOk = true ↔ ∀ text ∈ texts, (Label.parse text).isOk = true := by
  rw [readLabels, Outcome.isOk_mapError, Label.parseAll, Outcome.isOk_mapM_iff]

lemma isOk_readDistributions_iff {tokens : List String} :
    (readDistributions tokens).isOk = true ↔
      ∀ token ∈ tokens, (Distribution.ofToken? token).isSome = true := by
  have hone : ∀ token : String,
      ((Distribution.ofToken? token).elim (.error token) .ok : Except String Distribution).isOk =
        (Distribution.ofToken? token).isSome := by
    intro token
    cases Distribution.ofToken? token <;> rfl
  rw [readDistributions, Outcome.isOk_mapError, Distribution.parseAll, Outcome.isOk_bind_pure,
    Outcome.isOk_mapM_iff]
  simp only [hone]

/-! ## Places -/

/-- A place that comes from a place of a message. The offsets are known together or not at all, and
so are the lines and columns. -/
structure Location.Renders (buildFile : Path) (given : Option Wire.Location) (l : Location) :
    Prop where
  /-- The file is the build file. -/
  path : l.path = buildFile
  /-- The offsets are those given, if both are. -/
  offsets : ∀ a b, given.bind (·.startOffset) = some a → given.bind (·.endOffset) = some b →
    l.startOffset = a ∧ l.endOffset = b
  /-- Without one of the offsets both are zero. -/
  noOffsets : given.bind (·.startOffset) = none ∨ given.bind (·.endOffset) = none →
    l.startOffset = 0 ∧ l.endOffset = 0
  /-- The lines and columns are those given, if all of them are. -/
  positions : ∀ a b c d, given.bind (·.startLine) = some a → given.bind (·.startColumn) = some b →
    given.bind (·.endLine) = some c → given.bind (·.endColumn) = some d →
      l.start = ⟨a, b⟩ ∧ l.stop = ⟨c, d⟩
  /-- Without one of the lines and columns all of them are zero. -/
  noPositions : given.bind (·.startLine) = none ∨ given.bind (·.startColumn) = none ∨
    given.bind (·.endLine) = none ∨ given.bind (·.endColumn) = none →
      l.start = ⟨0, 0⟩ ∧ l.stop = ⟨0, 0⟩

/-- The place of a message is read as a place of the build file with its numbers, if they are all
there.

**Proof sketch.** Each number is there or not. The reading looks at them in turn and takes none of a
group as soon as one is missing. -/
lemma Location.renders_ofWire (buildFile : Path) (given : Option Wire.Location) :
    (Location.ofWire buildFile given).Renders buildFile given := by
  cases given with
  | none => constructor <;> simp [Location.ofWire, LineColumn.unknown]
  | some l =>
    obtain ⟨so, sl, sc, eo, el, ec⟩ := l
    constructor
    · rfl
    · rintro a b rfl rfl
      exact ⟨rfl, rfl⟩
    · rintro (rfl | rfl)
      · exact ⟨rfl, rfl⟩
      · cases so <;> exact ⟨rfl, rfl⟩
    · rintro a b c d rfl rfl rfl rfl
      exact ⟨rfl, rfl⟩
    · rintro (rfl | rfl | rfl | rfl)
      · exact ⟨rfl, rfl⟩
      · cases sl <;> exact ⟨rfl, rfl⟩
      · cases sl <;> cases sc <;> exact ⟨rfl, rfl⟩
      · cases sl <;> cases sc <;> cases el <;> exact ⟨rfl, rfl⟩

/-! ## Values -/

/-- The dictionaries of a message as values: every entry stays, in its place and with its key. -/
structure AttributeValue.KeepsEntries (a : Wire.Attribute) (v : AttributeValue) : Prop where
  /-- Strings by key. -/
  stringDict : ∀ entries, v = .stringDict entries ↔
    Encoding.ofCode? a.discriminator = some .stringDict ∧
      entries = a.stringDict.map fun e => (e.key, e.value)
  /-- Labels by key. -/
  labelListDict : ∀ entries, v = .labelListDict entries ↔
    Encoding.ofCode? a.discriminator = some .labelListDict ∧
      List.Forall₂ (fun e x => x.1 = e.key ∧
        List.Forall₂ (fun text l => Label.parse text = .ok l) e.labels x.2) a.labelListDict entries
  /-- Lists of strings by key. -/
  stringListDict : ∀ entries, v = .stringListDict entries ↔
    Encoding.ofCode? a.discriminator = some .stringListDict ∧
      entries = a.stringListDict.map fun e => (e.key, e.strings)

/-- Labels by key are read entry by entry. -/
lemma mapM_labelListDict_eq_ok_iff {es : List Wire.LabelListDictEntry}
    {entries : List (String × List Label)} :
    (es.mapM fun e => return (e.key, ← readLabels e.labels) : Except DecodeError _) = .ok entries ↔
      List.Forall₂ (fun e x => x.1 = e.key ∧
        List.Forall₂ (fun text l => Label.parse text = .ok l) e.labels x.2) es entries := by
  rw [Outcome.mapM_eq_ok_iff]
  refine iff_of_eq (congrArg (List.Forall₂ · es entries) ?_)
  funext e x
  simp only [Outcome.bind_eq_ok_iff, Outcome.pure_eq_ok_iff, readLabels_eq_ok_iff, eq_iff_iff]
  constructor
  · rintro ⟨labels, hl, rfl⟩
    exact ⟨rfl, hl⟩
  · rintro ⟨hk, hl⟩
    exact ⟨x.2, hl, by rw [← hk]⟩

namespace AttributeValue

variable {declared : AttributeType} {a : Wire.Attribute}

/-- Strings by key come from a payload of strings by key, and of no other. -/
lemma ofWire_eq_stringDict_iff {entries : List (String × String)} :
    ofWire declared a = .ok (stringDict entries) ↔
      Encoding.ofCode? a.discriminator = some .stringDict ∧
        (a.stringDict.map fun e => (e.key, e.value)) = entries := by
  unfold ofWire
  cases Encoding.ofCode? a.discriminator with
  | none => simp
  | some code => cases code <;> simp [labelListOfWire] <;> split_ifs <;> simp

/-- Labels by key come from a payload of labels by key, and of no other. -/
lemma ofWire_eq_labelListDict_iff {entries : List (String × List Label)} :
    ofWire declared a = .ok (labelListDict entries) ↔
      Encoding.ofCode? a.discriminator = some .labelListDict ∧
        List.Forall₂ (fun e x => x.1 = e.key ∧
          List.Forall₂ (fun text l => Label.parse text = .ok l) e.labels x.2)
          a.labelListDict entries := by
  rw [← mapM_labelListDict_eq_ok_iff]
  unfold ofWire
  cases Encoding.ofCode? a.discriminator with
  | none => simp
  | some code => cases code <;> simp [labelListOfWire] <;> split_ifs <;> simp

/-- Lists of strings by key come from a payload of lists of strings by key, and of no other. -/
lemma ofWire_eq_stringListDict_iff {entries : List (String × List String)} :
    ofWire declared a = .ok (stringListDict entries) ↔
      Encoding.ofCode? a.discriminator = some .stringListDict ∧
        (a.stringListDict.map fun e => (e.key, e.strings)) = entries := by
  unfold ofWire
  cases Encoding.ofCode? a.discriminator with
  | none => simp
  | some code => cases code <;> simp [labelListOfWire] <;> split_ifs <;> simp

/-- A value that is read keeps the entries of the dictionary that it is read from.

**Proof sketch.** The number of the payload decides which case the value is, and in the three cases
of dictionaries the entries are read in order, each by itself. -/
theorem keepsEntries_of_ofWire {v : AttributeValue} (h : ofWire declared a = .ok v) :
    v.KeepsEntries a := by
  have hv : ∀ v', v = v' ↔ ofWire declared a = .ok v' := by
    intro v'
    rw [h, Except.ok.injEq]
  refine ⟨fun entries => ?_, fun entries => ?_, fun entries => ?_⟩
  · rw [hv, ofWire_eq_stringDict_iff, eq_comm (a := entries)]
  · rw [hv, ofWire_eq_labelListDict_iff]
  · rw [hv, ofWire_eq_stringListDict_iff, eq_comm (a := entries)]

end AttributeValue

/-! ## Attributes -/

/-- An attribute that comes from an attribute of a message, under its declared type. -/
structure Attribute.Renders (declared : AttributeType) (buildFile : Path) (a : Wire.Attribute)
    (x : Attribute) : Prop where
  /-- The value is decoded under the declared type. -/
  value : AttributeValue.ofWire declared a = .ok x.value
  /-- A dictionary keeps its entries. -/
  entries : x.value.KeepsEntries a
  /-- The attribute is explicit if the message says so. -/
  explicit : x.explicit = a.explicit.getD false
  /-- The place is that of the declaration. -/
  location : x.location.Renders buildFile a.location

/-- An attribute that is read renders its message. -/
lemma Attribute.renders_of_ofWire {declared : AttributeType} {buildFile : Path}
    {a : Wire.Attribute} {x : Attribute} (h : Attribute.ofWire declared buildFile a = .ok x) :
    x.Renders declared buildFile a := by
  simp only [Attribute.ofWire, Outcome.bind_eq_ok_iff, Outcome.pure_eq_ok_iff] at h
  obtain ⟨v, hv, rfl⟩ := h
  exact ⟨hv, AttributeValue.keepsEntries_of_ofWire hv, rfl, Location.renders_ofWire _ _⟩

/-- An attribute is read exactly if its value is. -/
lemma Attribute.isOk_ofWire_iff (buildFile : Path) {declared : AttributeType} {a : Wire.Attribute} :
    (Attribute.ofWire declared buildFile a).isOk = true ↔
      (AttributeValue.ofWire declared a).isOk = true := by
  rw [Attribute.ofWire, Outcome.isOk_bind_pure]

end BuildPackage
