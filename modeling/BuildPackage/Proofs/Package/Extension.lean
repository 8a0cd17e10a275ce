import BuildPackage.Proofs.Package.Comparison

set_option relaxedAutoImplicit false
set_option autoImplicit false

/-!
# Larger registries

A registry may grow: new classes become known, and known classes get new attributes. As long as
every class keeps its attributes with their types, each message that was decoded before is decoded
as before. A message that was refused may be decoded now.

## Main definitions

* `BuildPackage.Registry.Extends` — a registry that knows all classes of another one.

## Main results

* `BuildPackage.Rule.ofWire_eq_ok_of_extends` — each rule that was read is read as before.
* `BuildPackage.Package.decodes_of_extends` — each message that was decoded is decoded as before.
-/

namespace BuildPackage

/-! ## Growth -/

/-- A class with all attributes of another one, under the same types. -/
def RuleClass.Extends (larger smaller : RuleClass) : Prop :=
  ∀ name type, smaller.attributeType? name = some type → larger.attributeType? name = some type

/-- A registry that knows all classes of another one, with all their attributes. -/
def Registry.Extends (larger smaller : Registry) : Prop :=
  ∀ name c, smaller.ruleClass? name = some c →
    ∃ c', larger.ruleClass? name = some c' ∧ c'.Extends c

/-- A class grows with an attribute that it did not declare before. -/
lemma RuleClass.extends_insert {c : RuleClass} {name : String} (h : c.attributeType? name = none)
    (type : AttributeType) :
    RuleClass.Extends { c with attributes := c.attributes.insert name type } c := by
  intro n t ht
  have hne : name ≠ n := by
    rintro rfl
    rw [h] at ht
    cases ht
  simpa [attributeType?, Std.ExtTreeMap.getElem?_insert, hne] using ht

/-- A registry grows with a class that takes the place of a smaller one or of none. -/
lemma Registry.extends_register {registry : Registry} {c : RuleClass}
    (h : ∀ c', registry.ruleClass? c.name = some c' → c.Extends c') :
    (registry.register c).Extends registry := by
  intro name c' hc'
  by_cases hname : c.name = name
  · subst hname
    exact ⟨c, by simp [ruleClass?, register], h c' hc'⟩
  · refine ⟨c', ?_, fun _ _ ht => ht⟩
    rw [← hc']
    simp [ruleClass?, register, Std.ExtTreeMap.getElem?_insert, hname]

lemma Registry.Extends.trans {r₁ r₂ r₃ : Registry} (h : r₁.Extends r₂) (h' : r₂.Extends r₃) :
    r₁.Extends r₃ := by
  intro name c₃ hc₃
  obtain ⟨c₂, hc₂, h₂₃⟩ := h' name c₃ hc₃
  obtain ⟨c₁, hc₁, h₁₂⟩ := h name c₂ hc₂
  exact ⟨c₁, hc₁, fun n type ht => h₁₂ n type (h₂₃ n type ht)⟩

/-! ## Rules -/

namespace RuleClass

variable {c c' : RuleClass} (h : c'.Extends c)
include h

/-- An attribute that a class reads is read by a larger class alike. -/
lemma decode_eq_ok_of_extends {buildFile : Path} {a : Wire.Attribute} {d : Attribute}
    (hd : c.decode buildFile a = .ok d) : c'.decode buildFile a = .ok d := by
  rw [decode_eq_ok_iff] at hd ⊢
  obtain ⟨declared, ht, hd⟩ := hd
  exact ⟨declared, h a.name declared ht, hd⟩

/-- Attributes that a class reads are read by a larger class alike. -/
lemma readAttributes_eq_ok_of_extends {buildFile : Path} {attributes : List Wire.Attribute}
    {m : Std.ExtTreeMap String Attribute} (hm : c.readAttributes buildFile attributes = .ok m) :
    c'.readAttributes buildFile attributes = .ok m := by
  refine Outcome.foldlM_eq_ok_of_imp (fun b a b' hb => ?_) hm
  rw [readAttribute_eq, Outcome.map_eq_ok_iff] at hb ⊢
  obtain ⟨d, hd, rfl⟩ := hb
  exact ⟨d, decode_eq_ok_of_extends h hd, rfl⟩

/-- A rule that a class makes is made by a larger class of the same name alike. An attribute that
only the larger class declares is not in the rule, so it contributes no outputs. -/
lemma makeRule_eq_ok_of_extends (hname : c'.name = c.name) {label : Label} {location : Location}
    {m : Std.ExtTreeMap String Attribute} {r : Rule} (hr : c.makeRule label location m = .ok r) :
    c'.makeRule label location m = .ok r := by
  rw [makeRule_eq_ok_iff] at hr ⊢
  obtain ⟨hdeclared, rfl⟩ := hr
  have htype : ∀ n ∈ m, c'.attributeType? n = c.attributeType? n := by
    intro n hn
    obtain ⟨type, ht⟩ := Option.isSome_iff_exists.1 (hdeclared n hn)
    rw [ht, h n type ht]
  have houtputs : ∀ e ∈ m.toList,
      c.declaredOutputs e.1 e.2.value = c'.declaredOutputs e.1 e.2.value := by
    intro e he
    rw [declaredOutputs, declaredOutputs, htype e.1 (mem_of_mem_toList he)]
  refine ⟨fun n hn => ?_, ?_⟩
  · rw [htype n hn]
    exact hdeclared n hn
  · rw [hname, List.flatMap_congr houtputs]

end RuleClass

variable {larger smaller : Registry}

/-- Each rule that is read in a registry is read in a larger one alike.

**Proof sketch.** The class is known to the larger registry, and is a larger class there. It reads
the attributes alike and makes the same rule of them. -/
theorem Rule.ofWire_eq_ok_of_extends (h : larger.Extends smaller) {buildFile : Path}
    {r : Wire.Rule} {x : Rule} (hx : Rule.ofWire smaller buildFile r = .ok x) :
    Rule.ofWire larger buildFile r = .ok x := by
  unfold ofWire at hx ⊢
  cases hc : smaller.ruleClass? r.ruleClass with
  | none => simp [hc] at hx
  | some c =>
    obtain ⟨c', hc', hext⟩ := h r.ruleClass c hc
    have hname : c'.name = c.name := by
      rw [(Registry.ruleClass?_eq_some_iff.1 hc').2, (Registry.ruleClass?_eq_some_iff.1 hc).2]
    simp only [hc, hc', Outcome.bind_eq_ok_iff] at hx ⊢
    obtain ⟨label, hlabel, m, hm, hx⟩ := hx
    exact ⟨label, hlabel, m, RuleClass.readAttributes_eq_ok_of_extends hext hm,
      RuleClass.makeRule_eq_ok_of_extends hext hname hx⟩

/-! ## Packages -/

/-- In a larger registry every message that is decoded is decoded as before, after the same
questions, to the same package with the same events. So it is with a search for subpackages. -/
theorem Package.decodes_of_extends (h : larger.Extends smaller) (w : Workspace)
    (m : Wire.Package) :
    (∀ asked d, (Package.ofWire smaller m).inWorkspace w = (asked, .ok d) →
      (Package.ofWire larger m).inWorkspace w = (asked, .ok d)) ∧
    ∀ asked d, (CheckedPackage.ofWire smaller m).inWorkspace w = (asked, .ok d) →
      (CheckedPackage.ofWire larger m).inWorkspace w = (asked, .ok d) := by
  have hrules : List.Forall₂ (fun r r' => r'.Covers larger smaller r) m.rules m.rules :=
    List.forall₂_same.2 fun r _ buildFile x hx => Rule.ofWire_eq_ok_of_extends h hx
  exact ⟨Package.covers_ofWire hrules, CheckedPackage.covers_ofWire hrules⟩

/-- A class that gets a second output attribute, besides a class that is new. -/
theorem Package.decodes_of_extends_of_outputs :
    let genrule : RuleClass := ⟨"genrule", .ofList [("out", AttributeType.output)]⟩
    let smaller : Registry := .register .empty genrule
    let wider : RuleClass :=
      { genrule with attributes := genrule.attributes.insert "outs" .outputList }
    let larger : Registry := (smaller.register ⟨"library", ∅⟩).register wider
    let m : Wire.Package := {
      name := "app"
      rules := [{
        name := "//app:gen", ruleClass := "genrule"
        attributes := [{ name := "out", discriminator := 4, string := some "//app:main.c" }] }] }
    let w : Workspace := ⟨fun package => some ⟨package ++ "/BUILD"⟩, fun _ => some false⟩
    larger.Extends smaller ∧
      (∃ asked d, (Package.ofWire smaller m).inWorkspace w = (asked, .ok d) ∧
        (Package.ofWire larger m).inWorkspace w = (asked, .ok d)) ∧
      ∃ asked d, (CheckedPackage.ofWire smaller m).inWorkspace w = (asked, .ok d) ∧
        (CheckedPackage.ofWire larger m).inWorkspace w = (asked, .ok d) := by
  intro genrule smaller wider larger m w
  have hlibrary : (smaller.register ⟨"library", ∅⟩).Extends smaller := by
    refine Registry.extends_register fun c' hc' => ?_
    have hnone : smaller.ruleClass? "library" = none := by decide +kernel
    rw [hnone] at hc'
    cases hc'
  have hgenrule : larger.Extends (smaller.register ⟨"library", ∅⟩) := by
    refine Registry.extends_register fun c' hc' => ?_
    have hsome : (smaller.register ⟨"library", ∅⟩).ruleClass? "genrule" = some genrule := by
      decide +kernel
    obtain rfl := Option.some.inj (hsome.symm.trans hc')
    exact RuleClass.extends_insert (by decide +kernel) .outputList
  have h : larger.Extends smaller := hgenrule.trans hlibrary
  obtain ⟨hplain, hchecked⟩ := Package.decodes_of_extends h w m
  obtain ⟨d, hd⟩ := Outcome.isOk_iff.1
    (by decide +kernel : ((Package.ofWire smaller m).inWorkspace w).2.isOk = true)
  obtain ⟨c, hc⟩ := Outcome.isOk_iff.1
    (by decide +kernel : ((CheckedPackage.ofWire smaller m).inWorkspace w).2.isOk = true)
  have hd' : (Package.ofWire smaller m).inWorkspace w = (_, .ok d) := Prod.ext rfl hd
  have hc' : (CheckedPackage.ofWire smaller m).inWorkspace w = (_, .ok c) := Prod.ext rfl hc
  exact ⟨h, ⟨_, d, hd', hplain _ d hd'⟩, _, c, hc', hchecked _ c hc'⟩

end BuildPackage
