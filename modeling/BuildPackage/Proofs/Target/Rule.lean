import BuildPackage.Proofs.Attribute.Reading
import BuildPackage.Target.Rule
import Mathlib.Data.List.Dedup
import Mathlib.Data.List.Induction

set_option relaxedAutoImplicit false
set_option autoImplicit false

/-!
# Rules from messages

The attributes of a rule are read one after another into a map in which a later attribute replaces
an earlier one of the same name. What the map holds in the end can be said without following the
steps: under each name that occurs, the last attribute of that name. The outputs of the rule follow
from the map, and so from the last attributes as well.

## Main definitions

* `BuildPackage.Wire.lastNamed?` — the attribute of a name that counts.
* `BuildPackage.RuleClass.decode` — one attribute under the type that its class declares.
* `BuildPackage.RuleClass.outputsNamed` — the outputs that come from the attributes of one name.

## Main results

* `BuildPackage.RuleClass.readAttributes_eq_ok_iff` — what reading attributes succeeds with.
* `BuildPackage.RuleClass.makeRule_eq_ok_iff` — what making a rule succeeds with.
* `BuildPackage.RuleClass.outputs_of_readAttributes` — the outputs of a rule, from its message.
-/

namespace BuildPackage

/-! ## Attributes -/

/-- The last attribute of a name. -/
def Wire.lastNamed? (attributes : List Wire.Attribute) (name : String) : Option Wire.Attribute :=
  attributes.findRev? fun a => a.name = name

namespace Wire

lemma lastNamed?_append_singleton (attributes : List Attribute) (a : Attribute) (name : String) :
    lastNamed? (attributes ++ [a]) name =
      if a.name = name then some a else lastNamed? attributes name := by
  simp only [lastNamed?, List.findRev?_eq_find?_reverse, List.reverse_append,
    List.reverse_singleton, List.singleton_append, List.find?_cons]
  split_ifs with h <;> simp [h]

lemma mem_of_lastNamed? {attributes : List Attribute} {name : String} {a : Attribute}
    (h : lastNamed? attributes name = some a) : a ∈ attributes ∧ a.name = name := by
  rw [lastNamed?, List.findRev?_eq_find?_reverse] at h
  exact ⟨List.mem_reverse.1 (List.mem_of_find?_eq_some h), by simpa using List.find?_some h⟩

/-- A name has a last attribute exactly if it occurs. -/
lemma exists_lastNamed?_iff {attributes : List Attribute} {name : String} :
    (∃ a, lastNamed? attributes name = some a) ↔ name ∈ attributes.map Attribute.name := by
  rw [← Option.isSome_iff_exists, lastNamed?, List.findRev?_eq_find?_reverse, List.find?_isSome]
  simp [List.mem_map]

end Wire

namespace RuleClass

variable {c : RuleClass} {buildFile : Path}

/-- Reads one attribute under the type that the class declares for it. -/
def decode (c : RuleClass) (buildFile : Path) (a : Wire.Attribute) :
    Except DecodeError Attribute := do
  Attribute.ofWire (← c.attributeType a.name) buildFile a

lemma attributeType_eq_ok_iff {name : String} {type : AttributeType} :
    c.attributeType name = .ok type ↔ c.attributeType? name = some type := by
  unfold attributeType
  split <;> simp_all

/-- An attribute is read exactly if it is declared and can be read under its type. -/
lemma decode_eq_ok_iff {a : Wire.Attribute} {d : Attribute} :
    c.decode buildFile a = .ok d ↔ ∃ declared, c.attributeType? a.name = some declared ∧
      Attribute.ofWire declared buildFile a = .ok d := by
  simp only [decode, Outcome.bind_eq_ok_iff, attributeType_eq_ok_iff]

lemma isOk_decode_iff (buildFile : Path) {a : Wire.Attribute} :
    (c.decode buildFile a).isOk = true ↔ ∃ declared, c.attributeType? a.name = some declared ∧
      (AttributeValue.ofWire declared a).isOk = true := by
  simp only [← Attribute.isOk_ofWire_iff buildFile]
  simp only [Outcome.isOk_iff, decode_eq_ok_iff]
  constructor
  · rintro ⟨d, declared, ht, hd⟩
    exact ⟨declared, ht, d, hd⟩
  · rintro ⟨declared, ht, d, hd⟩
    exact ⟨d, declared, ht, hd⟩

lemma readAttribute_eq (m : Std.ExtTreeMap String Attribute) (a : Wire.Attribute) :
    c.readAttribute buildFile m a = m.insert a.name <$> c.decode buildFile a := by
  simp [readAttribute, decode]

/-- If each attribute is read, all are. -/
lemma isOk_readAttributes {attributes : List Wire.Attribute}
    (h : ∀ a ∈ attributes, (c.decode buildFile a).isOk = true) :
    (c.readAttributes buildFile attributes).isOk = true := by
  unfold readAttributes
  generalize (∅ : Std.ExtTreeMap String Attribute) = m
  induction attributes generalizing m with
  | nil => rfl
  | cons a attributes ih =>
    obtain ⟨d, hd⟩ := Outcome.isOk_iff.1 (h a (by simp))
    rw [List.foldlM_cons, readAttribute_eq, hd]
    exact ih (fun k hk => h k (by simp [hk])) (m.insert a.name d)

/-- Attributes are read exactly if each of them is, also those that are replaced later. The map that
comes of it has under each name the last attribute of that name.

**Proof sketch.** Induction on the attributes from the end: the last one is inserted into the map of
those before it, and takes the place of an earlier one of its name. -/
theorem readAttributes_eq_ok_iff {attributes : List Wire.Attribute}
    {m : Std.ExtTreeMap String Attribute} :
    c.readAttributes buildFile attributes = .ok m ↔
      (∀ a ∈ attributes, (c.decode buildFile a).isOk = true) ∧
        ∀ n, m[n]? =
          (Wire.lastNamed? attributes n).bind fun a => (c.decode buildFile a).toOption := by
  induction attributes using List.reverseRecOn generalizing m with
  | nil =>
    have hnil : c.readAttributes buildFile [] = .ok ∅ := rfl
    rw [hnil, Except.ok.injEq]
    constructor
    · rintro rfl
      simp [Wire.lastNamed?]
    · rintro ⟨-, h⟩
      refine Std.ExtTreeMap.ext_getElem? fun n => ?_
      simp [h n, Wire.lastNamed?]
  | append_singleton attributes a ih =>
    have hstep : c.readAttributes buildFile (attributes ++ [a]) = .ok m ↔
        ∃ m₀, c.readAttributes buildFile attributes = .ok m₀ ∧
          ∃ d, c.decode buildFile a = .ok d ∧ m₀.insert a.name d = m := by
      simp [readAttributes, readAttribute_eq, List.foldlM_append]
    simp only [hstep, ih, List.forall_mem_append, List.forall_mem_singleton,
      Wire.lastNamed?_append_singleton]
    constructor
    · rintro ⟨m₀, ⟨hall, hget⟩, d, hd, rfl⟩
      refine ⟨⟨hall, Outcome.isOk_iff.2 ⟨d, hd⟩⟩, fun n => ?_⟩
      rw [Std.ExtTreeMap.getElem?_insert, hget]
      by_cases hn : a.name = n
      · simp [hn, hd, Except.toOption]
      · simp [hn]
    · rintro ⟨⟨hall, ha⟩, hget⟩
      obtain ⟨d, hd⟩ := Outcome.isOk_iff.1 ha
      obtain ⟨m₀, hm₀⟩ := Outcome.isOk_iff.1 (isOk_readAttributes hall)
      have hm := (ih.1 hm₀).2
      refine ⟨m₀, ⟨hall, hm⟩, d, hd, Std.ExtTreeMap.ext_getElem? fun n => ?_⟩
      rw [Std.ExtTreeMap.getElem?_insert, hget, hm]
      by_cases hn : a.name = n
      · simp [hn, hd, Except.toOption]
      · simp [hn]

/-- The map of attributes that were read has exactly the names that occur. -/
lemma mem_of_readAttributes {attributes : List Wire.Attribute}
    {m : Std.ExtTreeMap String Attribute} (h : c.readAttributes buildFile attributes = .ok m)
    (n : String) : n ∈ m ↔ n ∈ attributes.map Wire.Attribute.name := by
  obtain ⟨hall, hget⟩ := readAttributes_eq_ok_iff.1 h
  rw [Std.ExtTreeMap.mem_iff_isSome_getElem?, hget, ← Wire.exists_lastNamed?_iff]
  cases hl : Wire.lastNamed? attributes n with
  | none => simp
  | some a =>
    obtain ⟨d, hd⟩ := Outcome.isOk_iff.1 (hall a (Wire.mem_of_lastNamed? hl).1)
    simp [hd, Except.toOption]

/-- The attributes that were read are declared. -/
lemma isSome_attributeType?_of_readAttributes {attributes : List Wire.Attribute}
    {m : Std.ExtTreeMap String Attribute} (h : c.readAttributes buildFile attributes = .ok m)
    {n : String} (hn : n ∈ m) : (c.attributeType? n).isSome = true := by
  rw [mem_of_readAttributes h, List.mem_map] at hn
  obtain ⟨a, ha, rfl⟩ := hn
  obtain ⟨type, ht, -⟩ := (isOk_decode_iff buildFile).1 ((readAttributes_eq_ok_iff.1 h).1 a ha)
  rw [ht]
  rfl

/-- Under each name that occurs, the map has the last attribute of that name, read under the type
that the class declares for it. -/
lemma getElem?_of_readAttributes {attributes : List Wire.Attribute}
    {m : Std.ExtTreeMap String Attribute} (h : c.readAttributes buildFile attributes = .ok m)
    {n : String} {a : Wire.Attribute} (hl : Wire.lastNamed? attributes n = some a) :
    ∃ declared d, c.attributeType? n = some declared ∧
      Attribute.ofWire declared buildFile a = .ok d ∧ m[n]? = some d := by
  obtain ⟨hall, hget⟩ := readAttributes_eq_ok_iff.1 h
  obtain ⟨ha, rfl⟩ := Wire.mem_of_lastNamed? hl
  obtain ⟨d, hd⟩ := Outcome.isOk_iff.1 (hall a ha)
  obtain ⟨declared, ht, hof⟩ := decode_eq_ok_iff.1 hd
  refine ⟨declared, d, ht, hof, ?_⟩
  rw [hget, hl]
  simp [hd, Except.toOption]

/-! ## Outputs -/

/-- The name of an entry of a map is in the map. -/
lemma mem_of_mem_toList {m : Std.ExtTreeMap String Attribute} {e : String × Attribute}
    (h : e ∈ m.toList) : e.1 ∈ m := by
  rw [← Std.ExtTreeMap.mem_keys, ← Std.ExtTreeMap.map_fst_toList_eq_keys]
  exact List.mem_map_of_mem h

/-- The outputs of an attribute value: its labels, if its name is declared to be an output. -/
def declaredOutputs (c : RuleClass) (name : String) (value : AttributeValue) : List Label :=
  if (c.attributeType? name).any AttributeType.isOutput then value.labels else []

/-- The outputs that a message declares under one name: those of the last attribute of the name. -/
def outputsNamed (c : RuleClass) (attributes : List Wire.Attribute) (name : String) : List Label :=
  match c.attributeType? name, Wire.lastNamed? attributes name with
  | some type, some a =>
    if type.isOutput then
      ((AttributeValue.ofWire type a).toOption.map AttributeValue.labels).getD []
    else []
  | _, _ => []

lemma outputsOf_eq_ok_iff {entry : String × Attribute} {labels : List Label} :
    c.outputsOf entry = .ok labels ↔
      (c.attributeType? entry.1).isSome = true ∧
        c.declaredOutputs entry.1 entry.2.value = labels := by
  simp only [outputsOf, declaredOutputs, Outcome.bind_eq_ok_iff, attributeType_eq_ok_iff,
    Outcome.pure_eq_ok_iff]
  cases c.attributeType? entry.1 <;> simp

/-- A rule is made exactly if all its attributes are declared. Its outputs are those of its
attributes in the order of their names. -/
theorem makeRule_eq_ok_iff {label : Label} {location : Location}
    {m : Std.ExtTreeMap String Attribute} {r : Rule} :
    c.makeRule label location m = .ok r ↔
      (∀ n ∈ m, (c.attributeType? n).isSome = true) ∧
        r = ⟨label, c.name, location, m,
          m.toList.flatMap fun e => c.declaredOutputs e.1 e.2.value⟩ := by
  have hread : ∀ outputs, m.toList.mapM c.outputsOf = .ok outputs ↔
      (∀ n ∈ m, (c.attributeType? n).isSome = true) ∧
        (m.toList.map fun e => c.declaredOutputs e.1 e.2.value) = outputs := by
    intro outputs
    simp only [Outcome.mapM_eq_ok_iff, outputsOf_eq_ok_iff, List.forall₂_and_left,
      Outcome.forall₂_apply_eq_iff]
    refine and_congr_left fun _ => ⟨fun hl n hn => ?_, fun hm e he => ?_⟩
    · exact hl (n, m[n]) (by simp)
    · exact hm e.1 (mem_of_mem_toList he)
  simp only [makeRule, Outcome.bind_eq_ok_iff, Outcome.pure_eq_ok_iff, hread, List.flatMap_def]
  constructor
  · rintro ⟨_, ⟨hm, rfl⟩, rfl⟩
    exact ⟨hm, rfl⟩
  · rintro ⟨hm, rfl⟩
    exact ⟨_, ⟨hm, rfl⟩, rfl⟩

/-- What the map of read attributes contributes under a name is what the message declares there. -/
lemma declaredOutputs_of_readAttributes {attributes : List Wire.Attribute}
    {m : Std.ExtTreeMap String Attribute} (h : c.readAttributes buildFile attributes = .ok m)
    {n : String} {d : Attribute} (hd : m[n]? = some d) :
    c.declaredOutputs n d.value = c.outputsNamed attributes n := by
  have hmem : n ∈ m := by
    rw [Std.ExtTreeMap.mem_iff_isSome_getElem?, hd]
    rfl
  obtain ⟨a, ha⟩ := Wire.exists_lastNamed?_iff.2 ((mem_of_readAttributes h n).1 hmem)
  obtain ⟨declared, d', ht, hof, hd'⟩ := getElem?_of_readAttributes h ha
  obtain rfl : d = d' := Option.some.inj (hd.symm.trans hd')
  have hv := (Attribute.renders_of_ofWire hof).value
  simp [declaredOutputs, outputsNamed, ht, ha, hv, Except.toOption]

/-- The outputs of a rule that is read are those that its message declares, in the order of the
attribute names. -/
theorem outputs_of_readAttributes {attributes : List Wire.Attribute}
    {m : Std.ExtTreeMap String Attribute} (h : c.readAttributes buildFile attributes = .ok m) :
    (m.toList.flatMap fun e => c.declaredOutputs e.1 e.2.value) =
      m.keys.flatMap (c.outputsNamed attributes) := by
  rw [← Std.ExtTreeMap.map_fst_toList_eq_keys, List.flatMap_map]
  refine List.flatMap_congr fun e he => ?_
  exact declaredOutputs_of_readAttributes h
    (Std.ExtTreeMap.mem_toList_iff_getElem?_eq_some.1 he)

/-- The names in the map of read attributes are those that occur, each once. -/
lemma keys_perm_of_readAttributes {attributes : List Wire.Attribute}
    {m : Std.ExtTreeMap String Attribute} (h : c.readAttributes buildFile attributes = .ok m) :
    m.keys.Perm (attributes.map Wire.Attribute.name).dedup := by
  refine (List.perm_ext_iff_of_nodup Std.ExtTreeMap.nodup_keys (List.nodup_dedup _)).2 fun n => ?_
  rw [Std.ExtTreeMap.mem_keys, List.mem_dedup, mem_of_readAttributes h]

end RuleClass

end BuildPackage
