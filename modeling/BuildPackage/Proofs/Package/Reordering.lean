import BuildPackage.Proofs.Package.Comparison

set_option relaxedAutoImplicit false
set_option autoImplicit false

/-!
# The order of attributes

The attributes of a rule may stand in a message in any order, as long as those of one name follow
one another as before. What is decoded is the same: a rule needs all its attributes to be in order,
wherever they stand, and takes the last one of each name; and its outputs follow the order of the
names. Only the error of a message that is not decoded may be another one.

## Main definitions

* `BuildPackage.Wire.Rule.Reorders` — a rule with its attributes in another order.

## Main results

* `BuildPackage.Wire.Rule.Reorders.lastNamed?_eq` — the attributes that count are the same.
* `BuildPackage.Wire.Rule.Reorders.readAttributes_eq_ok_iff` — the attributes are read alike.
* `BuildPackage.Package.decodes_iff_of_reorders` — the message is decoded alike.
-/

namespace BuildPackage

/-! ## Attributes in another order -/

/-- A rule with the attributes of another one in another order, in which attributes of one name
follow one another as before. -/
structure Wire.Rule.Reorders (r r' : Wire.Rule) : Prop where
  /-- Nothing but the attributes differs. -/
  rest : { r' with attributes := r.attributes } = r
  /-- The attributes are the same, in some order. -/
  perm : r'.attributes.Perm r.attributes
  /-- The attributes of one name are the same, in the same order. -/
  sameName : ∀ name,
    (r'.attributes.filter fun a => a.name = name) = r.attributes.filter fun a => a.name = name

namespace Wire.Rule.Reorders

variable {r r' : Wire.Rule}

lemma symm (h : r.Reorders r') : r'.Reorders r := by
  refine ⟨?_, h.perm.symm, fun name => (h.sameName name).symm⟩
  rw [← h.rest]

lemma name_eq (h : r.Reorders r') : r'.name = r.name := congrArg (·.name) h.rest

lemma ruleClass_eq (h : r.Reorders r') : r'.ruleClass = r.ruleClass :=
  congrArg (·.ruleClass) h.rest

lemma location_eq (h : r.Reorders r') : r'.location = r.location := congrArg (·.location) h.rest

/-- The last attribute of a name is the last one of those with that name. -/
lemma lastNamed?_eq (h : r.Reorders r') (name : String) :
    lastNamed? r'.attributes name = lastNamed? r.attributes name := by
  have hlast : ∀ attributes : List Attribute, lastNamed? attributes name =
      (attributes.filter fun a => a.name = name).getLast? := by
    intro attributes
    rw [lastNamed?, List.findRev?_eq_find?_reverse, List.getLast?_filter]
  rw [hlast, hlast, h.sameName]

/-- Attributes in another order are read as the same map, if they are read.

**Proof sketch.** Reading succeeds if each attribute is read, which does not depend on their order.
Under each name the map has the last attribute of that name, which is the same. -/
theorem readAttributes_eq_ok_iff (h : r.Reorders r') {c : RuleClass} {buildFile : Path}
    {m : Std.ExtTreeMap String BuildPackage.Attribute} :
    c.readAttributes buildFile r'.attributes = .ok m ↔
      c.readAttributes buildFile r.attributes = .ok m := by
  simp only [RuleClass.readAttributes_eq_ok_iff, h.perm.mem_iff, h.lastNamed?_eq]

/-- The outputs that a rule declares under a name are the same. -/
lemma outputsNamed_eq (h : r.Reorders r') (registry : Registry) :
    r'.outputsNamed registry = r.outputsNamed registry := by
  funext name
  simp only [outputsNamed, RuleClass.outputsNamed, h.ruleClass_eq, h.lastNamed?_eq]

/-- A rule is read wherever it is read with its attributes in another order. -/
theorem covers (h : r.Reorders r') (registry : Registry) : r'.Covers registry registry r := by
  intro buildFile x hx
  rw [BuildPackage.Rule.ofWire_eq_ok_iff] at hx ⊢
  simpa only [h.name_eq, h.ruleClass_eq, h.location_eq, h.readAttributes_eq_ok_iff,
    h.outputsNamed_eq] using hx

end Wire.Rule.Reorders

/-! ## Packages -/

/-- A message is decoded exactly if it is decoded with the attributes of its rules in another order,
after the same questions and with the same package and the same events. So it is with a search for
subpackages.

**Proof sketch.** Each rule is read wherever it is read with its attributes in another order. As
this holds both ways, decoding the one message covers decoding the other and conversely. -/
theorem Package.decodes_iff_of_reorders {m : Wire.Package} {rules : List Wire.Rule}
    (h : List.Forall₂ Wire.Rule.Reorders m.rules rules) (registry : Registry) (w : Workspace) :
    (∀ asked d, (Package.ofWire registry { m with rules }).inWorkspace w = (asked, .ok d) ↔
      (Package.ofWire registry m).inWorkspace w = (asked, .ok d)) ∧
    ∀ asked d, (CheckedPackage.ofWire registry { m with rules }).inWorkspace w = (asked, .ok d) ↔
      (CheckedPackage.ofWire registry m).inWorkspace w = (asked, .ok d) := by
  have hfrom : List.Forall₂ (fun r r' => r'.Covers registry registry r) m.rules rules :=
    h.imp fun _ _ hr => hr.covers registry
  have hback : List.Forall₂ (fun r r' => r'.Covers registry registry r) rules m.rules :=
    h.flip.imp fun _ _ hr => hr.symm.covers registry
  have hagain : m = { { m with rules } with rules := m.rules } := rfl
  refine ⟨fun asked d => ⟨?_, Package.covers_ofWire hfrom asked d⟩,
    fun asked d => ⟨?_, CheckedPackage.covers_ofWire hfrom asked d⟩⟩
  · rw [hagain]
    exact Package.covers_ofWire hback asked d
  · rw [hagain]
    exact CheckedPackage.covers_ofWire hback asked d

/-- Two outputs that change places around an environment that is declared twice. -/
theorem Package.decodes_iff_of_reorders_of_repeated_name :
    let registry : Registry := .register .empty ⟨"genrule", .ofList [
      ("out_a", AttributeType.output), ("out_b", .output), ("env", .stringDict)]⟩
    let outA : Wire.Attribute := { name := "out_a", discriminator := 4, string := some "//app:a" }
    let outB : Wire.Attribute := { name := "out_b", discriminator := 4, string := some "//app:b" }
    let env : Wire.Attribute := { name := "env", discriminator := 10, stringDict := [⟨"k", "v"⟩] }
    let env' : Wire.Attribute := { env with stringDict := [⟨"k", "w"⟩] }
    let r : Wire.Rule :=
      { name := "//app:gen", ruleClass := "genrule", attributes := [outB, env, outA, env'] }
    let r' : Wire.Rule := { r with attributes := [env, outA, env', outB] }
    let m : Wire.Package := { name := "app", rules := [r] }
    let w : Workspace := ⟨fun package => some ⟨package ++ "/BUILD"⟩, fun _ => some false⟩
    List.Forall₂ Wire.Rule.Reorders m.rules [r'] ∧
      ((Package.ofWire registry m).inWorkspace w).2.isOk = true ∧
      (∀ asked d, (Package.ofWire registry { m with rules := [r'] }).inWorkspace w =
          (asked, .ok d) ↔ (Package.ofWire registry m).inWorkspace w = (asked, .ok d)) ∧
      ∀ asked d, (CheckedPackage.ofWire registry { m with rules := [r'] }).inWorkspace w =
          (asked, .ok d) ↔ (CheckedPackage.ofWire registry m).inWorkspace w = (asked, .ok d) := by
  intro registry outA outB env env' r r' m w
  have hperm : r'.attributes.Perm r.attributes := by
    show ([env, outA, env'] ++ [outB]).Perm ([outB] ++ [env, outA, env'])
    exact List.perm_append_comm
  have hname : ∀ name, (r'.attributes.filter fun a => a.name = name) =
      r.attributes.filter fun a => a.name = name := by
    intro name
    show ([env, outA, env'] ++ [outB]).filter _ = ([outB] ++ [env, outA, env']).filter _
    -- `outB` moves past the others, and none of them has its name.
    by_cases hb : "out_b" = name
    · subst hb
      decide
    · have hout : decide (outB.name = name) = false := decide_eq_false hb
      have hfilter : ([outB].filter fun a => a.name = name) = [] := by simp [hout]
      rw [List.filter_append, List.filter_append, hfilter, List.append_nil, List.nil_append]
  have hrules : List.Forall₂ Wire.Rule.Reorders m.rules [r'] := .cons ⟨rfl, hperm, hname⟩ .nil
  exact ⟨hrules, by decide +kernel, Package.decodes_iff_of_reorders hrules registry w⟩

end BuildPackage
