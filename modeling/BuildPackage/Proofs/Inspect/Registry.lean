import BuildPackage.Proofs.Entries
import BuildPackage.Proofs.Inspect.Confinement
import BuildPackage.Proofs.Text.ByteOrder

set_option relaxedAutoImplicit false
set_option autoImplicit false

/-!
# Registries from documents

A registry document may repeat the names of classes and of attributes. What counts is the last entry
of a name, and the last entry of a class takes the place of the earlier ones with all their
attributes. So the document declares at most one type for an attribute of a class. It is a registry
if all these types are known, and its registry tells exactly these types. Otherwise it is refused for
the least class and attribute with an unknown type, in the order of bytes and not in that of the
document.

## Main definitions

* `BuildPackage.Document.Declares` — the types that a document declares.
* `BuildPackage.Document.FirstUnknown` — the unknown type that a document is refused for.
* `BuildPackage.Registry.Reflects` — a registry that tells what a document declares.

## Main results

* `BuildPackage.Registry.reflects_of_ofDocument` — what a document succeeds with.
* `BuildPackage.Registry.ofDocument_eq_error_iff` — what a document is refused for.
* `BuildPackage.readRegistry_follows_document` — the registry of a file.
-/

namespace BuildPackage

/-! ## Documents -/

namespace Document

/-- The name of the type that a document declares for an attribute of a class: that of the last
entry of the attribute in the last entry of the class. -/
def Declares (d : Document) (ruleClass attr typeName : String) : Prop :=
  ∃ attributes, LastEntry d.classes ruleClass attributes ∧ LastEntry attributes attr typeName

variable {d : Document} {ruleClass attr typeName : String}

/-- The members of a document that count are those that it declares. -/
lemma declares_iff : d.Declares ruleClass attr typeName ↔
    ∃ types, d.types[ruleClass]? = some types ∧ types[attr]? = some typeName := by
  have hclass : ∀ types, d.types[ruleClass]? = some types ↔
      ∃ attributes, LastEntry d.classes ruleClass attributes ∧ .ofList attributes = types :=
    fun _ => getElem?_ofList_eq_some_iff.trans <| lastEntry_map_iff
      (f := fun attributes : List (String × String) => Std.ExtTreeMap.ofList attributes compare)
  simp only [hclass, Declares]
  constructor
  · rintro ⟨attributes, hlast, hattr⟩
    exact ⟨_, ⟨attributes, hlast, rfl⟩, getElem?_ofList_eq_some_iff.2 hattr⟩
  · rintro ⟨_, ⟨attributes, hlast, rfl⟩, hattr⟩
    exact ⟨attributes, hlast, getElem?_ofList_eq_some_iff.1 hattr⟩

/-- An unknown type that a document declares, for the class with the least name and for the least
attribute of that class. Names are compared byte by byte. -/
structure FirstUnknown (d : Document) (ruleClass attr typeName : String) : Prop where
  /-- The type is declared. -/
  declares : d.Declares ruleClass attr typeName
  /-- It is unknown. -/
  unknown : AttributeType.ofName? typeName = none
  /-- Every other unknown type is declared for a later class or attribute. -/
  least : ∀ ruleClass' attr' typeName', d.Declares ruleClass' attr' typeName' →
    AttributeType.ofName? typeName' = none →
      bytes ruleClass < bytes ruleClass' ∨
        ruleClass = ruleClass' ∧ (bytes attr < bytes attr' ∨ attr = attr')

end Document

/-! ## Classes -/

namespace RuleClass

variable {name : String} {types : Std.ExtTreeMap String String}

/-- Reads the declared type of an attribute. -/
def readType (name : String) (a : String × String) :
    Except InspectError (String × AttributeType) :=
  match AttributeType.ofName? a.2 with
  | some type => .ok (a.1, type)
  | none => .error (.unknownType name a.2)

lemma readType_eq_ok_iff {a : String × String} {b : String × AttributeType} :
    readType name a = .ok b ↔ a.1 = b.1 ∧ AttributeType.ofName? a.2 = some b.2 := by
  unfold readType
  split
  next type h => simp [h, Prod.ext_iff]
  next h => simp [h]

lemma readType_eq_error_iff {a : String × String} {e : InspectError} :
    readType name a = .error e ↔
      AttributeType.ofName? a.2 = none ∧ .unknownType name a.2 = e := by
  unfold readType
  split
  next type h => simp [h]
  next h => simp [h]

lemma isOk_readType_iff {a : String × String} :
    (readType name a).isOk = true ↔ (AttributeType.ofName? a.2).isSome = true := by
  unfold readType
  split
  next type h => simp [h, Except.isOk, Except.toBool]
  next h => simp [h, Except.isOk, Except.toBool]

lemma ofTypes_eq (name : String) (types : Std.ExtTreeMap String String) :
    ofTypes name types =
      (fun attributes => ⟨name, .ofList attributes⟩) <$> types.toList.mapM (readType name) := by
  rw [map_eq_pure_bind]
  rfl

/-- A class is read exactly if all its types are known. -/
lemma isOk_ofTypes_iff : (ofTypes name types).isOk = true ↔
    ∀ (attr typeName : String), types[attr]? = some typeName →
      (AttributeType.ofName? typeName).isSome = true := by
  rw [ofTypes_eq, Outcome.isOk_map, Outcome.isOk_mapM_iff, forall_mem_toList_iff]
  simp only [isOk_readType_iff]

/-- A class that is read has its types. -/
theorem attributeType?_of_ofTypes {c : RuleClass} (h : ofTypes name types = .ok c) :
    c.name = name ∧ ∀ attr type, c.attributeType? attr = some type ↔
      ∃ typeName, types[attr]? = some typeName ∧
        AttributeType.ofName? typeName = some type := by
  rw [ofTypes_eq, Outcome.map_eq_ok_iff] at h
  obtain ⟨attributes, hattributes, rfl⟩ := h
  have hread : List.Forall₂
      (fun a b => a.1 = b.1 ∧ AttributeType.ofName? a.2 = some b.2) types.toList attributes :=
    (Outcome.mapM_eq_ok_iff.1 hattributes).imp fun _ _ => readType_eq_ok_iff.1
  refine ⟨rfl, fun attr type => ?_⟩
  exact getElem?_ofList_of_forall₂ (R := fun _ typeName type =>
    AttributeType.ofName? typeName = some type) hread
    fun _ _ _ _ htype htype' => Option.some.inj (htype.symm.trans htype')

/-- A class is refused for its least attribute with an unknown type. -/
lemma ofTypes_eq_error_iff {e : InspectError} : ofTypes name types = .error e ↔
    ∃ attr typeName : String, types[attr]? = some typeName ∧
      (AttributeType.ofName? typeName = none ∧ .unknownType name typeName = e) ∧
      ∀ attr' typeName' : String, types[attr']? = some typeName' →
        AttributeType.ofName? typeName' = none → attr ≤ attr' := by
  rw [ofTypes_eq, Outcome.map_eq_error_iff, Outcome.mapM_eq_error_iff, firstRefused_toList_iff]
  simp only [readType_eq_error_iff, isOk_readType_iff, Option.not_isSome_iff_eq_none]

end RuleClass

/-! ## Registries -/

namespace Registry

/-- A registry that tells what a document declares, and nothing else. -/
structure Reflects (r : Registry) (d : Document) : Prop where
  /-- An attribute of a class has the type that is declared for it. -/
  attributeType_iff : ∀ ruleClass attr type,
    ((r.ruleClass? ruleClass).bind fun c => c.attributeType? attr) = some type ↔
      ∃ typeName, d.Declares ruleClass attr typeName ∧
        AttributeType.ofName? typeName = some type
  /-- An attribute for which nothing is declared has no type. -/
  eq_none_iff : ∀ ruleClass attr,
    ((r.ruleClass? ruleClass).bind fun c => c.attributeType? attr) = none ↔
      ∀ typeName, ¬ d.Declares ruleClass attr typeName
  /-- The classes are those of the document, also one without attributes. -/
  ruleClass_iff : ∀ ruleClass,
    (r.ruleClass? ruleClass).isSome = true ↔ ruleClass ∈ d.classes.map Prod.fst
  /-- Each of them is counted once. -/
  size_eq : r.size = (d.classes.map Prod.fst).dedup.length

variable {d : Document}

lemma declarations_foldl_register (classes : List RuleClass) :
    (classes.foldl register .empty).declarations =
      .ofList (classes.map fun c => (c.name, c.attributes)) := by
  rw [Std.ExtTreeMap.ofList_eq_foldl, List.foldl_map]
  exact (List.foldl_hom Registry.declarations fun _ _ => rfl).symm

lemma ofDocument_eq (d : Document) : ofDocument d =
    (·.foldl register .empty) <$> d.types.toList.mapM fun c => RuleClass.ofTypes c.1 c.2 := by
  rw [map_eq_pure_bind]
  rfl

/-- A document is a registry exactly if it declares known types only. -/
lemma isOk_ofDocument_iff : (ofDocument d).isOk = true ↔
    ∀ ruleClass attr typeName, d.Declares ruleClass attr typeName →
      (AttributeType.ofName? typeName).isSome = true := by
  rw [ofDocument_eq, Outcome.isOk_map, Outcome.isOk_mapM_iff, forall_mem_toList_iff]
  simp only [RuleClass.isOk_ofTypes_iff, Document.declares_iff]
  constructor
  · rintro h ruleClass attr typeName ⟨types, htypes, hattr⟩
    exact h _ _ htypes _ _ hattr
  · intro h ruleClass types htypes attr typeName hattr
    exact h _ _ _ ⟨types, htypes, hattr⟩

/-- A class whose declared types are read has some attributes. -/
def ReadAs (name : String) (types : Std.ExtTreeMap String String)
    (attributes : Std.ExtTreeMap String AttributeType) : Prop :=
  RuleClass.ofTypes name types = .ok ⟨name, attributes⟩

/-- A registry is the map of the classes that are read from those of its document. -/
lemma exists_forall₂_of_ofDocument {r : Registry} (h : ofDocument d = .ok r) :
    ∃ read, r.declarations = .ofList read ∧
      List.Forall₂ (fun e e' => e.1 = e'.1 ∧ ReadAs e.1 e.2 e'.2) d.types.toList read := by
  rw [ofDocument_eq, Outcome.map_eq_ok_iff] at h
  obtain ⟨classes, hclasses, rfl⟩ := h
  refine ⟨_, declarations_foldl_register classes, ?_⟩
  rw [List.forall₂_map_right_iff]
  refine (Outcome.mapM_eq_ok_iff.1 hclasses).imp fun e c hc => ?_
  obtain ⟨hname, -⟩ := RuleClass.attributeType?_of_ofTypes hc
  exact ⟨hname.symm, by rw [ReadAs, hc, ← hname]⟩

variable {r : Registry}

/-- The classes of a registry are read from what the document declares for them. -/
lemma ruleClass?_of_ofDocument (h : ofDocument d = .ok r) {ruleClass : String} {c : RuleClass} :
    r.ruleClass? ruleClass = some c ↔
      ∃ types, d.types[ruleClass]? = some types ∧ RuleClass.ofTypes ruleClass types = .ok c := by
  obtain ⟨read, hread, hclasses⟩ := exists_forall₂_of_ofDocument h
  have hunique : ∀ name types attributes attributes', ReadAs name types attributes →
      ReadAs name types attributes' → attributes = attributes' := by
    intro name types attributes attributes' hread hread'
    exact congrArg RuleClass.attributes (Except.ok.inj (hread.symm.trans hread'))
  simp only [ruleClass?, hread, Option.map_eq_some_iff,
    getElem?_ofList_of_forall₂ hclasses hunique]
  constructor
  · rintro ⟨attributes, ⟨types, htypes, hc⟩, rfl⟩
    exact ⟨types, htypes, hc⟩
  · rintro ⟨types, htypes, hc⟩
    obtain ⟨rfl, -⟩ := RuleClass.attributeType?_of_ofTypes hc
    exact ⟨c.attributes, ⟨types, htypes, hc⟩, rfl⟩

/-- A document that is a registry tells what is declared in it. -/
theorem reflects_of_ofDocument (h : ofDocument d = .ok r) : r.Reflects d := by
  have hknown := isOk_ofDocument_iff.1 (Outcome.isOk_iff.2 ⟨r, h⟩)
  have htype : ∀ ruleClass attr type,
      ((r.ruleClass? ruleClass).bind fun c => c.attributeType? attr) = some type ↔
        ∃ typeName, d.Declares ruleClass attr typeName ∧
          AttributeType.ofName? typeName = some type := by
    intro ruleClass attr type
    simp only [Option.bind_eq_some_iff, ruleClass?_of_ofDocument h, Document.declares_iff]
    constructor
    · rintro ⟨c, ⟨types, htypes, hc⟩, hattr⟩
      obtain ⟨typeName, hmem, hname⟩ :=
        ((RuleClass.attributeType?_of_ofTypes hc).2 attr type).1 hattr
      exact ⟨typeName, ⟨types, htypes, hmem⟩, hname⟩
    · rintro ⟨typeName, ⟨types, htypes, hmem⟩, hname⟩
      obtain ⟨c, hc⟩ : ∃ c, RuleClass.ofTypes ruleClass types = .ok c :=
        Outcome.isOk_iff.1 (RuleClass.isOk_ofTypes_iff.2 fun attr typeName hattr =>
          hknown _ _ _ (Document.declares_iff.2 ⟨types, htypes, hattr⟩))
      exact ⟨c, ⟨types, htypes, hc⟩,
        ((RuleClass.attributeType?_of_ofTypes hc).2 attr type).2 ⟨typeName, hmem, hname⟩⟩
  obtain ⟨read, hread, hclasses⟩ := exists_forall₂_of_ofDocument h
  refine ⟨htype, fun ruleClass attr => ?_, fun ruleClass => ?_, ?_⟩
  · rw [Option.eq_none_iff_forall_ne_some]
    simp only [ne_eq, htype, not_exists, not_and]
    constructor
    · intro hnone typeName hdeclares
      obtain ⟨type, htype⟩ := Option.isSome_iff_exists.1 (hknown _ _ _ hdeclares)
      exact hnone type typeName hdeclares htype
    · intro hnone type typeName hdeclares
      exact absurd hdeclares (hnone typeName)
  · rw [ruleClass?, Option.isSome_map, hread, Std.ExtTreeMap.isSome_getElem?_iff_mem,
      Std.ExtTreeMap.mem_ofList, names_of_forall₂_toList hclasses,
      Std.ExtTreeMap.map_fst_toList_eq_keys, List.contains_iff_mem, Std.ExtTreeMap.mem_keys,
      Document.types, Std.ExtTreeMap.mem_ofList, List.map_map, List.contains_iff_mem]
    rfl
  · rw [size, hread, size_ofList_of_forall₂ hclasses, Document.types, size_ofList, List.map_map]
    rfl

/-- A document is refused for its first unknown type. -/
theorem ofDocument_eq_error_iff {e : InspectError} : ofDocument d = .error e ↔
    ∃ ruleClass attr typeName, e = .unknownType ruleClass typeName ∧
      d.FirstUnknown ruleClass attr typeName := by
  have hbytes : ∀ s t : String, s ≤ t ↔ bytes s < bytes t ∨ s = t := fun s t => by
    rw [le_iff_lt_or_eq, lt_iff_bytes_lt]
  rw [ofDocument_eq, Outcome.map_eq_error_iff, Outcome.mapM_eq_error_iff, firstRefused_toList_iff]
  simp only [RuleClass.ofTypes_eq_error_iff, RuleClass.isOk_ofTypes_iff, not_forall,
    Option.not_isSome_iff_eq_none]
  constructor
  · rintro ⟨ruleClass, types, htypes, ⟨attr, typeName, hattr, ⟨hunknown, rfl⟩, hleast⟩, hfirst⟩
    refine ⟨ruleClass, attr, typeName, rfl, Document.declares_iff.2 ⟨types, htypes, hattr⟩,
      hunknown, fun ruleClass' attr' typeName' hdeclares hunknown' => ?_⟩
    obtain ⟨types', htypes', hattr'⟩ := Document.declares_iff.1 hdeclares
    rcases (hbytes _ _).1 (hfirst ruleClass' types' htypes' ⟨attr', typeName', hattr', hunknown'⟩)
      with hlt | rfl
    · exact .inl hlt
    · obtain rfl := Option.some.inj (htypes.symm.trans htypes')
      exact .inr ⟨rfl, (hbytes _ _).1 (hleast attr' typeName' hattr' hunknown')⟩
  · rintro ⟨ruleClass, attr, typeName, rfl, ⟨hdeclares, hunknown, hleast⟩⟩
    obtain ⟨types, htypes, hattr⟩ := Document.declares_iff.1 hdeclares
    refine ⟨ruleClass, types, htypes, ⟨attr, typeName, hattr, ⟨hunknown, rfl⟩, ?_⟩, ?_⟩
    · intro attr' typeName' hattr' hunknown'
      rcases hleast ruleClass attr' typeName' (Document.declares_iff.2 ⟨types, htypes, hattr'⟩)
        hunknown' with hlt | ⟨-, hle⟩
      · exact absurd hlt (List.lt_irrefl _)
      · exact (hbytes _ _).2 hle
    · rintro ruleClass' types' htypes' ⟨attr', typeName', hattr', hunknown'⟩
      rcases hleast ruleClass' attr' typeName' (Document.declares_iff.2 ⟨types', htypes', hattr'⟩)
        hunknown' with hlt | ⟨rfl, -⟩
      · exact (lt_iff_bytes_lt.2 hlt).le
      · exact le_rfl

end Registry

/-! ## Files -/

variable {answer : (p : Probe) → p.Answer} {path : Path} {data : ByteArray} {d : Document}

/-- The registry of a file with a document is that of the document. -/
lemma held_readRegistry (hdata : answer (.readFile path) = .ok data)
    (hd : Document.ofBytes? data = some d) :
    (readRegistry path).held answer = ([.readFile path], Registry.ofDocument d) := by
  have hread : (Inspection.read path).held answer = ([.readFile path], .ok data) := by
    simp only [Inspection.held, Inspection.read, ExceptT.run_mk, Dialogue.run_ask]
    rw [hdata]
    rfl
  rw [readRegistry, Inspection.held_bind, hread]
  simp only [hd, Inspection.held_ofExcept, List.append_nil]

/-- The registry of a file. It is read exactly if all types that the document declares are known,
and it tells these types for their attributes and nothing for others. If a type is unknown, the error
names the first one and its class, in the order of the bytes of the names.

**Proof sketch.** Both the classes and the attributes of each are looked at as entries of a map, so
each name counts once, by its last entry, and the first entry that is refused is the least one. -/
theorem readRegistry_follows_document (hdata : answer (.readFile path) = .ok data)
    (hd : Document.ofBytes? data = some d) :
    (((readRegistry path).held answer).2.isOk = true ↔
      ∀ ruleClass attr typeName, d.Declares ruleClass attr typeName →
        (AttributeType.ofName? typeName).isSome = true) ∧
    (∀ r, ((readRegistry path).held answer).2 = .ok r → r.Reflects d) ∧
    ∀ e, ((readRegistry path).held answer).2 = .error e ↔
      ∃ ruleClass attr typeName, e = .unknownType ruleClass typeName ∧
        d.FirstUnknown ruleClass attr typeName := by
  rw [held_readRegistry hdata hd]
  exact ⟨Registry.isOk_ofDocument_iff, fun _ => Registry.reflects_of_ofDocument,
    fun _ => Registry.ofDocument_eq_error_iff⟩

/-- A document that repeats a class and an attribute after unknown types, and one that writes
unknown types in the order of neither its classes nor its attributes. -/
theorem readRegistry_follows_document_of_repeated_names :
    let object := fun (members : List String) => "\x7b" ++ ",".intercalate members ++ "\x7d"
    let member := fun (name value : String) => "\"" ++ name ++ "\":" ++ value
    let written := object [member "b" (object [member "x" "\"?\""]), member "a" (object []),
      member "b" (object [member "y" "\"?\"", member "y" "\"int\""])]
    let written' := object [member "z" (object [member "a" "\"?\""]),
      member "c" (object [member "q" "\"?q\"", member "p" "\"?p\""])]
    let d : Document := ⟨[("b", [("x", "?")]), ("a", []), ("b", [("y", "?"), ("y", "int")])]⟩
    let d' : Document := ⟨[("z", [("a", "?")]), ("c", [("q", "?q"), ("p", "?p")])]⟩
    let t := [("r.json", written.toUTF8), ("s.json", written'.toUTF8)].foldl
      (fun (t : FileTree) e => t.insert e.1 (some e.2)) .empty
    (∃ r, ((readRegistry ⟨"r.json"⟩).held t.answer).2 = .ok r ∧ r.Reflects d ∧ r.size = 2) ∧
    ∃ attr, ((readRegistry ⟨"s.json"⟩).held t.answer).2 = .error (.unknownType "c" "?p") ∧
      d'.FirstUnknown "c" attr "?p" := by
  intro object member written written' d d' t
  have hdata : t.answer (.readFile ⟨"r.json"⟩) = .ok written.toUTF8 :=
    Outcome.toOption_eq_some_iff.1 (by decide +kernel)
  have hdata' : t.answer (.readFile ⟨"s.json"⟩) = .ok written'.toUTF8 :=
    Outcome.toOption_eq_some_iff.1 (by decide +kernel)
  have hd : Document.ofBytes? written.toUTF8 = some d := by decide +kernel
  have hd' : Document.ofBytes? written'.toUTF8 = some d' := by decide +kernel
  obtain ⟨-, hreflects, -⟩ := readRegistry_follows_document hdata hd
  obtain ⟨-, -, hrefused⟩ := readRegistry_follows_document hdata' hd'
  constructor
  · obtain ⟨r, hr⟩ : ∃ r, ((readRegistry ⟨"r.json"⟩).held t.answer).2 = .ok r :=
      Outcome.isOk_iff.1 (by decide +kernel)
    exact ⟨r, hr, hreflects r hr, by rw [(hreflects r hr).size_eq]; decide⟩
  · have hnames : (match ((readRegistry ⟨"s.json"⟩).held t.answer).2 with
        | .error (.unknownType ruleClass typeName) => (ruleClass, typeName)
        | _ => ("", "")) = ("c", "?p") := by decide +kernel
    cases h : ((readRegistry ⟨"s.json"⟩).held t.answer).2 with
    | ok r =>
      rw [h] at hnames
      simp at hnames
    | error e =>
      obtain ⟨ruleClass, attr, typeName, rfl, hfirst⟩ := (hrefused e).1 h
      rw [h] at hnames
      obtain ⟨rfl, rfl⟩ := Prod.mk.inj hnames
      exact ⟨attr, rfl, hfirst⟩

end BuildPackage
