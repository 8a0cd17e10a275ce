import BuildPackage.Package.OfWire
import BuildPackage.Proofs.Attribute.Provenance
import BuildPackage.Proofs.Target.Rule

set_option relaxedAutoImplicit false
set_option autoImplicit false

/-!
# Targets without provenance

Of the targets only rules have attributes, and so provenance. A rule of a message is read as it
would be without any: the map of its attributes has the same names, and as its outputs are labels
of values, they are the same as well.

## Main definitions

* `BuildPackage.Wire.Rule.bare`, `BuildPackage.Wire.Target.bare` — targets of a message without the
  provenance of their attributes.
* `BuildPackage.Rule.bare`, `BuildPackage.Target.bare` — decoded targets without it.
* `BuildPackage.Rule.Alike` — rules that look alike to whoever reads outputs and labels.

## Main results

* `BuildPackage.Rule.ofWire_bare` — reading commutes with forgetting.
* `BuildPackage.Rule.beq_bare` — comparing does not look at provenance.
* `BuildPackage.Rule.alike_of_bare_eq` — rules that differ in provenance alone are alike.
-/

namespace BuildPackage

/-! ## Rules -/

/-- A rule of a message without the provenance of its attributes. -/
def Wire.Rule.bare (r : Wire.Rule) : Wire.Rule :=
  { r with attributes := r.attributes.map Wire.Attribute.bare }

/-- Attributes by name without their provenance. -/
def bareAttributes (m : Std.ExtTreeMap String Attribute) : Std.ExtTreeMap String Attribute :=
  m.map fun _ a => a.bare

@[simp] lemma getElem?_bareAttributes (m : Std.ExtTreeMap String Attribute) (name : String) :
    (bareAttributes m)[name]? = m[name]?.map Attribute.bare :=
  Std.ExtTreeMap.getElem?_map

lemma toList_bareAttributes (m : Std.ExtTreeMap String Attribute) :
    (bareAttributes m).toList = m.toList.map fun e => (e.1, e.2.bare) :=
  Std.ExtTreeMap.toList_map

lemma bareAttributes_insert (m : Std.ExtTreeMap String Attribute) (name : String) (a : Attribute) :
    bareAttributes (m.insert name a) = (bareAttributes m).insert name a.bare := by
  refine Std.ExtTreeMap.ext_getElem? fun n => ?_
  simp only [Std.ExtTreeMap.getElem?_insert, getElem?_bareAttributes]
  split_ifs <;> rfl

/-- A rule without the provenance of its attributes. -/
def Rule.bare (r : Rule) : Rule := { r with attributes := bareAttributes r.attributes }

namespace RuleClass

variable (c : RuleClass) (buildFile : Path)

lemma decode_bare (a : Wire.Attribute) :
    c.decode buildFile a.bare = Attribute.bare <$> c.decode buildFile a := by
  simp only [decode, Attribute.ofWire_bare, map_bind]
  rfl

lemma readAttribute_bare (m : Std.ExtTreeMap String Attribute) (a : Wire.Attribute) :
    c.readAttribute buildFile (bareAttributes m) a.bare =
      bareAttributes <$> c.readAttribute buildFile m a := by
  have hname : a.bare.name = a.name := rfl
  rw [readAttribute_eq, readAttribute_eq, decode_bare, hname, ← comp_map, ← comp_map]
  refine congrArg (· <$> _) (funext fun d => ?_)
  exact (bareAttributes_insert m a.name d).symm

/-- Attributes without provenance are read as the map of attributes without provenance. -/
lemma readAttributes_bare (attributes : List Wire.Attribute) :
    c.readAttributes buildFile (attributes.map Wire.Attribute.bare) =
      bareAttributes <$> c.readAttributes buildFile attributes := by
  have hempty : bareAttributes ∅ = ∅ := by
    refine Std.ExtTreeMap.ext_getElem? fun n => ?_
    simp
  have hloop := Outcome.foldlM_map_map (c.readAttribute_bare buildFile) ∅ attributes
  rwa [hempty] at hloop

/-- Rules are made of attributes without provenance as of the attributes, with the same outputs. -/
lemma makeRule_bare (label : Label) (location : Location) (m : Std.ExtTreeMap String Attribute) :
    c.makeRule label location (bareAttributes m) =
      Rule.bare <$> c.makeRule label location m := by
  have houtputs : (bareAttributes m).toList.mapM c.outputsOf = m.toList.mapM c.outputsOf := by
    rw [toList_bareAttributes, List.mapM_map]
    congr 1
    funext e
    simp [outputsOf, Attribute.bare]
  simp [makeRule, houtputs, Rule.bare]

end RuleClass

namespace Rule

/-- A rule without provenance is read as the rule without provenance. -/
theorem ofWire_bare (registry : Registry) (buildFile : Path) (r : Wire.Rule) :
    ofWire registry buildFile r.bare = bare <$> ofWire registry buildFile r := by
  unfold ofWire
  have hclass : r.bare.ruleClass = r.ruleClass := rfl
  rw [hclass]
  cases registry.ruleClass? r.ruleClass with
  | none => rfl
  | some c =>
    simp only [Wire.Rule.bare, RuleClass.readAttributes_bare, map_bind, bind_map_left,
      RuleClass.makeRule_bare]

/-- Comparing rules does not look at provenance. -/
@[simp] theorem beq_bare (r r' : Rule) : (r.bare == r'.bare) = (r == r') := by
  have hentry : ∀ e e' : String × Attribute,
      ((e.1, e.2.bare) == (e'.1, e'.2.bare)) = (e == e') := by
    intro e e'
    show (e.1 == e'.1 && e.2.bare == e'.2.bare) = (e.1 == e'.1 && e.2 == e'.2)
    rw [Attribute.beq_bare]
  show beq _ _ = beq _ _
  simp only [beq, bare, toList_bareAttributes, beq_map_map hentry]

instance : ReflBEq Rule where
  rfl {r} := by
    show beq r r = true
    simp [beq]

/-- Two rules that look alike to everyone who reads outputs and labels. -/
structure Alike (r r' : Rule) : Prop where
  /-- The rules are equal by comparison. -/
  beq : (r' == r) = true
  /-- The outputs are the same. -/
  outputs : r'.outputs = r.outputs
  /-- The values have the same labels, name by name. -/
  labels : ∀ name, (r'.value? name).map AttributeValue.labels =
    (r.value? name).map AttributeValue.labels

/-- Rules that differ in provenance alone look alike. -/
theorem alike_of_bare_eq {r r' : Rule} (h : r'.bare = r.bare) : r.Alike r' := by
  have houtputs : r'.bare.outputs = r.bare.outputs := congrArg outputs h
  refine ⟨?_, houtputs, fun name => ?_⟩
  · rw [← beq_bare, h, beq_self_eq_true]
  · have hbare : ∀ r : Rule, (r.bare.value? name).map AttributeValue.labels =
        (r.value? name).map AttributeValue.labels := by
      intro r
      simp [value?, attribute?, bare, Function.comp_def, Attribute.bare]
    rw [← hbare r', h, hbare]

end Rule

/-! ## Targets -/

/-- A target of a message without the provenance of its attributes. -/
def Wire.Target.bare : Wire.Target → Wire.Target
  | rule r => rule r.bare
  | t => t

namespace Target

/-- A target without the provenance of its attributes. -/
def bare : Target → Target
  | rule r => rule r.bare
  | t => t

variable (t : Target)

@[simp] lemma kind_bare : t.bare.kind = t.kind := by cases t <;> rfl

@[simp] lemma label_bare : t.bare.label = t.label := by cases t <;> rfl

@[simp] lemma outputs_bare : t.bare.outputs = t.outputs := by cases t <;> rfl

/-- A target without provenance is read as the target without provenance. -/
theorem ofWire_bare (registry : Registry) (package : String) (buildFile : Path)
    (t : Wire.Target) : ofWire registry package buildFile t.bare =
      bare <$> ofWire registry package buildFile t := by
  cases t with
  | sourceFile f => exact Outcome.map_eq_map_map _ fun _ => rfl
  | packageGroup g => exact Outcome.map_eq_map_map _ fun _ => rfl
  | rule r =>
    show rule <$> Rule.ofWire registry buildFile r.bare =
      bare <$> rule <$> Rule.ofWire registry buildFile r
    rw [Rule.ofWire_bare, ← comp_map, ← comp_map]
    rfl

end Target

end BuildPackage
