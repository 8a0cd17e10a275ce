import BuildPackage.Proofs.Package.Assembly
import BuildPackage.Proofs.Text.ByteOrder

set_option relaxedAutoImplicit false
set_option autoImplicit false

/-!
# Outputs of rules

Whether an attribute contributes to the outputs of its rule is decided by its declared type, but
what it contributes by the number of its payload: an attribute that is declared to be an output may
carry no labels at all, and one that carries outputs may be declared to be something else. The
outputs of a rule can be read off its message without decoding it: name by name, the labels that the
last attribute of a name carries.

## Main definitions

* `BuildPackage.Wire.Attribute.labelTexts` — the labels that an attribute carries.
* `BuildPackage.RuleClass.outputTexts` — the labels that a message gives as outputs under a name.
* `BuildPackage.Rule.TakesOutputs` — a rule with the outputs that its message gives.
* `BuildPackage.Builder.Holds` — an output among the targets of a package.

## Main results

* `BuildPackage.AttributeValue.forall₂_labels_of_ofWire` — the labels of a value are those carried.
* `BuildPackage.RuleClass.exists_makeRule` — no attribute is refused once it has been read.
* `BuildPackage.Package.outputs_of_message` — the outputs of the rules of a package.
-/

namespace BuildPackage

/-! ## Labels of payloads -/

namespace Wire

/-- The labels of a fileset entry: the source, and then the files if they are said to be present. -/
def FilesetEntry.labelTexts (e : FilesetEntry) : List String :=
  e.source :: if e.filesPresent = some true then e.files else []

/-- The labels that an attribute carries, in order, as the number of its payload tells. -/
def Attribute.labelTexts (a : Attribute) : List String :=
  match Encoding.ofCode? a.discriminator with
  | some .label | some .output => [a.string.getD ""]
  | some .labelList | some .outputList => a.strings
  | some .filesetEntryList => a.filesetEntries.flatMap FilesetEntry.labelTexts
  | some .labelListDict => a.labelListDict.flatMap LabelListDictEntry.labels
  | _ => []

end Wire

/-- The labels of a fileset entry that is read are those that it carries. -/
lemma FilesetEntry.forall₂_labels_of_ofWire {e : Wire.FilesetEntry} {x : FilesetEntry}
    (h : FilesetEntry.ofWire e = .ok x) :
    List.Forall₂ (fun text l => Label.parse text = .ok l) e.labelTexts x.labels := by
  by_cases hpresent : e.filesPresent = some true
  · simp only [FilesetEntry.ofWire, if_pos hpresent, Outcome.bind_eq_ok_iff, Outcome.map_eq_ok_iff,
      Outcome.pure_eq_ok_iff, readLabel_eq_ok_iff, readLabels_eq_ok_iff] at h
    obtain ⟨_, ⟨files, hfiles, rfl⟩, source, hsource, behavior, -, rfl⟩ := h
    rw [Wire.FilesetEntry.labelTexts, if_pos hpresent]
    exact .cons hsource hfiles
  · simp only [FilesetEntry.ofWire, if_neg hpresent, pure_bind, Outcome.bind_eq_ok_iff,
      Outcome.pure_eq_ok_iff, readLabel_eq_ok_iff] at h
    obtain ⟨source, hsource, behavior, -, rfl⟩ := h
    rw [Wire.FilesetEntry.labelTexts, if_neg hpresent]
    exact .cons hsource .nil

namespace AttributeValue

variable {declared : AttributeType} {a : Wire.Attribute} {v : AttributeValue}

lemma forall₂_labels_of_labelListOfWire (h : labelListOfWire a = .ok v) :
    List.Forall₂ (fun text l => Label.parse text = .ok l) a.strings v.labels := by
  simp only [labelListOfWire, Outcome.bind_eq_ok_iff, Outcome.pure_eq_ok_iff] at h
  obtain ⟨labels, hlabels, rfl⟩ := h
  exact readLabels_eq_ok_iff.1 hlabels

/-- The labels of a value that is declared to be an output are those that its attribute carries.

**Proof sketch.** By the number of the payload. Strings could be labels only under other types. -/
theorem forall₂_labels_of_ofWire (hdeclared : declared.isOutput = true)
    (h : ofWire declared a = .ok v) :
    List.Forall₂ (fun text l => Label.parse text = .ok l) a.labelTexts v.labels := by
  have hlabel : declared ≠ .nodepLabel := by
    rintro rfl
    cases hdeclared
  have hlist : declared ≠ .nodepLabelList := by
    rintro rfl
    cases hdeclared
  unfold ofWire at h
  unfold Wire.Attribute.labelTexts
  cases hcode : Encoding.ofCode? a.discriminator with
  | none =>
    rw [hcode] at h
    cases h
  | some code =>
    simp only [hcode, if_neg hlabel, if_neg hlist] at h
    cases code with
    | integer | string | stringList | stringDict | stringListDict | boolean =>
      obtain rfl := Except.ok.inj h
      exact .nil
    | distributionSet | license | tristate =>
      obtain ⟨_, -, rfl⟩ := Outcome.map_eq_ok_iff.1 h
      exact .nil
    | label | output =>
      obtain ⟨l, hl, rfl⟩ := Outcome.map_eq_ok_iff.1 h
      exact .cons (readLabel_eq_ok_iff.1 hl) .nil
    | labelList | outputList => exact forall₂_labels_of_labelListOfWire h
    | filesetEntryList =>
      obtain ⟨entries, hentries, rfl⟩ := Outcome.map_eq_ok_iff.1 h
      exact List.rel_flatMap (Outcome.mapM_eq_ok_iff.1 hentries)
        fun _ _ => FilesetEntry.forall₂_labels_of_ofWire
    | labelListDict =>
      obtain ⟨entries, hentries, rfl⟩ := Outcome.map_eq_ok_iff.1 h
      exact List.rel_flatMap (mapM_labelListDict_eq_ok_iff.1 hentries) fun _ _ he => he.2

end AttributeValue

/-! ## Outputs of rules -/

namespace RuleClass

variable {c : RuleClass} {buildFile : Path} {attributes : List Wire.Attribute}
  {m : Std.ExtTreeMap String Attribute}

/-- The labels that a message gives as outputs under a name: those that the last attribute of the
name carries, if the name is declared to be an output. -/
def outputTexts (c : RuleClass) (attributes : List Wire.Attribute) (name : String) : List String :=
  if c.attributeType? name = some .output ∨ c.attributeType? name = some .outputList then
    ((Wire.lastNamed? attributes name).map Wire.Attribute.labelTexts).getD []
  else []

/-- What a name contributes to the outputs is what its last attribute carries. -/
lemma forall₂_outputsNamed (h : c.readAttributes buildFile attributes = .ok m) (name : String) :
    List.Forall₂ (fun text l => Label.parse text = .ok l) (c.outputTexts attributes name)
      (c.outputsNamed attributes name) := by
  cases hlast : Wire.lastNamed? attributes name with
  | none => simp [outputTexts, outputsNamed, hlast]
  | some a =>
    obtain ⟨declared, d, ht, hof, hget⟩ := getElem?_of_readAttributes h hlast
    have houtput :
        c.attributeType? name = some .output ∨ c.attributeType? name = some .outputList ↔
          declared.isOutput = true := by
      rw [ht]
      cases declared <;> simp [AttributeType.isOutput]
    rw [outputTexts, if_congr houtput rfl rfl, hlast, ← declaredOutputs_of_readAttributes h hget,
      declaredOutputs, ht, Option.any_some]
    split_ifs with hdeclared
    · have hvalue := (Attribute.renders_of_ofWire hof).value
      exact AttributeValue.forall₂_labels_of_ofWire hdeclared hvalue
    · exact .nil

/-- A rule can be made of any attributes that have been read: making it looks up their types again,
and finds them. -/
theorem exists_makeRule (h : c.readAttributes buildFile attributes = .ok m) (label : Label)
    (location : Location) : ∃ x, c.makeRule label location m = .ok x :=
  ⟨_, makeRule_eq_ok_iff.2 ⟨fun _ hn => isSome_attributeType?_of_readAttributes h hn, rfl⟩⟩

end RuleClass

/-- The names in a map stand in the order of their bytes. -/
lemma pairwise_bytes_keys (m : Std.ExtTreeMap String Attribute) :
    m.keys.Pairwise fun n k => bytes n < bytes k :=
  Std.ExtTreeMap.ordered_keys.imp fun h => lt_iff_bytes_lt.1 (compare_lt_iff_lt.1 h)

/-- A rule with the outputs that its message gives under the types of its class. -/
structure Rule.TakesOutputs (c : RuleClass) (r : Wire.Rule) (x : Rule) : Prop where
  /-- The names of the attributes stand in the order of their bytes. -/
  names_sorted : x.attributes.keys.Pairwise fun n k => bytes n < bytes k
  /-- They are the names that occur. -/
  mem_names : ∀ n, n ∈ x.attributes.keys ↔ n ∈ r.attributes.map Wire.Attribute.name
  /-- The outputs are, name by name, those that the message gives. -/
  outputs : List.Forall₂ (fun text l => Label.parse text = .ok l)
    (x.attributes.keys.flatMap (c.outputTexts r.attributes)) x.outputs

/-- A rule that is read takes its outputs from its message. -/
theorem Rule.takesOutputs_of_ofWire {registry : Registry} {buildFile : Path} {r : Wire.Rule}
    {x : Rule} (h : Rule.ofWire registry buildFile r = .ok x) :
    ∃ c, registry.ruleClass? r.ruleClass = some c ∧ x.TakesOutputs c r := by
  obtain ⟨c, hc, -, hm, hx⟩ := Rule.ofWire_eq_ok_iff.1 h
  refine ⟨c, hc, pairwise_bytes_keys _, fun n => ?_, ?_⟩
  · rw [Std.ExtTreeMap.mem_keys, RuleClass.mem_of_readAttributes hm]
  · rw [congrArg Rule.outputs hx, Wire.Rule.outputsNamed_eq_of_ruleClass? hc]
    have hnames : List.Forall₂ Eq x.attributes.keys x.attributes.keys :=
      List.forall₂_same.2 fun _ _ => rfl
    refine List.rel_flatMap hnames ?_
    rintro n _ rfl
    exact RuleClass.forall₂_outputsNamed hm n

/-! ## Packages -/

/-- An output among the targets of a package: it is entered at a place, its name is taken, and the
finished package has it. -/
structure Builder.Holds (b : Builder) (output : OutputFile) : Prop where
  /-- The output lies in the package. -/
  owned : output.label.package = b.name
  /-- It is entered at its place. -/
  entered : output ∈ b.outputFiles
  /-- Its name is taken. -/
  taken : b.containsTarget output.label.name = true
  /-- The finished package has it. -/
  built : output.label ∈ b.build.outputFiles

variable {m : Wire.Package} {s : Setting} {files : List InputFile} {groups : List PackageGroup}
  {rules : List Rule}

/-- A package with all targets of a message holds the outputs of its rules. -/
lemma Builder.holds_ofTargets
    (h : Vacant m.name ∅ ((Target.ofKinds files groups rules).flatMap Target.labels)) {x : Rule}
    (hx : x ∈ rules) {l : Label} (hl : l ∈ x.outputs) :
    (ofTargets m s files groups rules).Holds ⟨l, x.location⟩ := by
  have hlabel : l ∈ (Target.ofKinds files groups rules).flatMap Target.labels := by
    refine List.mem_flatMap.2 ⟨.rule x, ?_, List.mem_cons_of_mem _ hl⟩
    exact List.mem_append_right _ (List.mem_map_of_mem hx)
  have hfile : (⟨l, x.location⟩ : OutputFile) ∈ rules.flatMap Rule.outputFiles :=
    List.mem_flatMap.2 ⟨x, hx, List.mem_map_of_mem hl⟩
  refine ⟨h.owned l hlabel, List.mem_toArray.2 hfile, ?_, List.mem_map_of_mem hfile⟩
  rw [containsTarget, ofTargets, Std.ExtTreeSet.contains_ofList, List.contains_iff_mem]
  exact List.mem_map_of_mem hlabel

/-- The outputs of the rules of a package that is decoded are those that its message gives, and the
package holds each of them at the place of its rule. No rule is refused once its attributes have
been read.

**Proof sketch.** The outputs of a rule come from the map of its attributes
(`Rule.ofWire_eq_ok_iff`), which has under each name the last attribute of that name; its value has
the labels that the attribute carries (`AttributeValue.forall₂_labels_of_ofWire`). All targets could
be added, so there was room for the outputs. -/
theorem Package.outputs_of_message (registry : Registry) (w : Workspace) (m : Wire.Package) :
    (∀ d, (Package.ofWire registry m).outcome w = .ok d → ∃ b : Builder,
      (assemble registry m).outcome w = .ok (b, d.events) ∧ b.build = d.package ∧
        List.Forall₂ (fun r x => ∃ c, registry.ruleClass? r.ruleClass = some c ∧
          x.TakesOutputs c r) m.rules d.package.rules ∧
        ∀ x ∈ d.package.rules, ∀ l ∈ x.outputs, b.Holds ⟨l, x.location⟩) ∧
    ∀ r ∈ m.rules, ∀ c, registry.ruleClass? r.ruleClass = some c → ∀ buildFile attributes,
      c.readAttributes buildFile r.attributes = .ok attributes →
        ∀ label location, ∃ x, c.makeRule label location attributes = .ok x := by
  refine ⟨fun d hd => ?_, fun r _ c _ buildFile attributes hread label location =>
    RuleClass.exists_makeRule hread label location⟩
  obtain ⟨b, hb, hbuild⟩ := Package.outcome_eq_ok_iff.1 hd
  obtain ⟨s, -, hof, -⟩ := outcome_assemble_eq_ok_iff.1 hb
  obtain ⟨files, groups, rules, -, -, hrules, hvacant, rfl⟩ := Builder.ofWire_eq_ok_iff.1 hof
  rw [← hbuild]
  exact ⟨_, hb, rfl, (Outcome.mapM_eq_ok_iff.1 hrules).imp fun _ _ => Rule.takesOutputs_of_ofWire,
    fun x hx l hl => Builder.holds_ofTargets hvacant hx hl⟩

/-- A rule whose outputs come from a fileset and from labels by key. An attribute that is given
again, one that carries a string, and one that is not declared to be an output contribute nothing.
-/
theorem Package.outputs_of_message_of_mixed_payloads :
    let attributes : List Wire.Attribute := [
      { name := "outs", discriminator := 7, strings := ["//app:old"] },
      { name := "outs", discriminator := 12, labelListDict := [⟨"k", ["//app:c", "//app:b"]⟩] },
      { name := "exe", discriminator := 11, filesetEntries := [
        { source := "//app:main", files := ["//app:data"], filesPresent := some true }] },
      { name := "log", discriminator := 2, string := some "//app:log" },
      { name := "srcs", discriminator := 7, strings := ["//app:a"] }]
    let m : Wire.Package := {
      name := "app", rules := [{ name := "//app:gen", ruleClass := "genrule", attributes }] }
    let c : RuleClass := ⟨"genrule", .ofList [("outs", AttributeType.outputList),
      ("exe", .output), ("log", .output), ("srcs", .labelList)]⟩
    let registry : Registry := .register .empty c
    let w : Workspace := ⟨fun package => some ⟨package ++ "/BUILD"⟩, fun _ => some false⟩
    (∃ d, (Package.ofWire registry m).outcome w = .ok d ∧
      d.package.rules.map (fun x => x.outputs.map Label.text) =
        [["//app:main", "//app:data", "//app:c", "//app:b"]] ∧
      ∃ b : Builder, b.build = d.package ∧
        ∀ x ∈ d.package.rules, ∀ l ∈ x.outputs, b.Holds ⟨l, x.location⟩) ∧
    ∃ read, c.readAttributes ⟨"app/BUILD"⟩ attributes = .ok read ∧
      ∀ label location, ∃ x, c.makeRule label location read = .ok x := by
  intro attributes m c registry w
  obtain ⟨hdecoded, hmade⟩ := Package.outputs_of_message registry w m
  have htexts : (fun d : Decoded Package => d.package.rules.map fun x => x.outputs.map Label.text) <$>
      (Package.ofWire registry m).outcome w =
        .ok [["//app:main", "//app:data", "//app:c", "//app:b"]] := by decide +kernel
  have hread : (c.readAttributes ⟨"app/BUILD"⟩ attributes).isOk = true := by decide +kernel
  obtain ⟨d, hd, htexts⟩ := Outcome.map_eq_ok_iff.1 htexts
  obtain ⟨b, -, hbuild, -, hheld⟩ := hdecoded d hd
  obtain ⟨read, hread⟩ := Outcome.isOk_iff.1 hread
  have hclass : registry.ruleClass? "genrule" = some c := by decide +kernel
  exact ⟨⟨d, hd, htexts, b, hbuild, hheld⟩, read, hread,
    hmade _ (List.mem_singleton_self _) c hclass _ read hread⟩

end BuildPackage
