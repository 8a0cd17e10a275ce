import BuildPackage.Proofs.Attribute.Reading
import BuildPackage.Proofs.Label.Reading
import BuildPackage.Proofs.License.Reading

set_option relaxedAutoImplicit false
set_option autoImplicit false

/-!
# Licenses and distributions are sets

What a license or a list of distributions says does not depend on the order in which its elements are
written, on how often they are written, or on the case of the names and the spelling of the labels.
Only the error does: it is that of the first element that is refused. Types and exceptions do not mix:
whatever text an exception has, it is no type.

## Main definitions

* `BuildPackage.SameMembers` — lists with the same members, up to a relation.
* `BuildPackage.Wire.License.Alike` — licenses of messages with the same tokens and exceptions, up to
  case and spelling.
* `BuildPackage.Wire.License.ReadAsSets`, `BuildPackage.Distribution.ReadAsSets` — how licenses and
  distributions are read.

## Main results

* `BuildPackage.Wire.License.Alike.ofWire_eq_ok_iff` — licenses that are alike are read alike.
* `BuildPackage.Distribution.readDistributions_eq_ok_iff` — what distributions are read as.
* `BuildPackage.License.reads_sets` — licenses and distributions are read as sets.
-/

namespace BuildPackage

/-! ## Members -/

/-- Lists with the same members, up to a relation: each member of one is related to some member of
the other. -/
structure SameMembers (R : String → String → Prop) (xs ys : List String) : Prop where
  /-- The members of the first list have partners in the second one. -/
  forth : ∀ x ∈ xs, ∃ y ∈ ys, R x y
  /-- The members of the second list have partners in the first one. -/
  back : ∀ y ∈ ys, ∃ x ∈ xs, R x y

namespace SameMembers

variable {R : String → String → Prop} {xs ys : List String} {P : String → Prop}

/-- Something that partners have in common is found in both lists or in none. -/
lemma exists_iff (h : SameMembers R xs ys) (hP : ∀ x y, R x y → (P x ↔ P y)) :
    (∃ x ∈ xs, P x) ↔ ∃ y ∈ ys, P y := by
  constructor
  · rintro ⟨x, hx, hPx⟩
    obtain ⟨y, hy, hxy⟩ := h.forth x hx
    exact ⟨y, hy, (hP x y hxy).1 hPx⟩
  · rintro ⟨y, hy, hPy⟩
    obtain ⟨x, hx, hxy⟩ := h.back y hy
    exact ⟨x, hx, (hP x y hxy).2 hPy⟩

/-- Something that partners have in common holds throughout both lists or in none. -/
lemma forall_iff (h : SameMembers R xs ys) (hP : ∀ x y, R x y → (P x ↔ P y)) :
    (∀ x ∈ xs, P x) ↔ ∀ y ∈ ys, P y := by
  have hnot := h.exists_iff (P := fun x => ¬ P x) fun x y hxy => not_congr (hP x y hxy)
  rw [← not_iff_not]
  push Not
  exact hnot

end SameMembers

/-- A token that is another one, or the same name in another case. -/
inductive Recased (IsName : String → Prop) : String → String → Prop
  /-- The token is left as it is. -/
  | same (token : String) : Recased IsName token token
  /-- The case of a name is changed. -/
  | case {token token' : String} (hname : IsName token) (hcase : SameInAnyCase token token') :
      Recased IsName token token'

/-- A text that is another one, or another spelling of the same label. -/
inductive Respelled : String → String → Prop
  /-- The text is left as it is. -/
  | same (text : String) : Respelled text text
  /-- The label is spelled differently. -/
  | label {text text' : String} {label : Label} (h : Label.parse text = .ok label)
      (h' : Label.parse text' = .ok label) : Respelled text text'

/-- The name of a license type, in some case. -/
def IsLicenseTypeName (token : String) : Prop := ∃ type : LicenseType, SameInAnyCase token type.text

/-- The name of a distribution, in some case. -/
def IsDistributionName (token : String) : Prop := ∃ d : Distribution, SameInAnyCase token d.text

section

variable {token token' text text' : String}

/-- Names in different cases are names of the same things. -/
lemma Recased.names_iff {IsName : String → Prop} {name : String}
    (h : Recased IsName token token') :
    SameInAnyCase token name ↔ SameInAnyCase token' name := by
  cases h with
  | same => exact Iff.rfl
  | case _ hcase => exact ⟨hcase.symm.trans, hcase.trans⟩

/-- No name is marked as an exception, in whatever case. -/
lemma Recased.marked_iff (h : Recased IsLicenseTypeName token token') :
    token = License.exceptionMark ++ text ↔ token' = License.exceptionMark ++ text := by
  cases h with
  | same => exact Iff.rfl
  | case hname hcase =>
    obtain ⟨type, htype⟩ := hname
    refine iff_of_false ?_ ?_
    · rintro rfl
      exact License.not_sameInAnyCase_marked text type htype
    · rintro rfl
      exact License.not_sameInAnyCase_marked text type (hcase.symm.trans htype)

/-- Spellings of one label are read alike. -/
lemma Respelled.parse_eq_ok_iff {label : Label} (h : Respelled text text') :
    Label.parse text = .ok label ↔ Label.parse text' = .ok label := by
  cases h with
  | same => exact Iff.rfl
  | label h h' => rw [h, h']

end

/-! ## Licenses -/

namespace Wire.License

/-- Licenses of messages with the same tokens and exceptions, except for the order in which they are
written, for repetitions, for the case of names and for the spelling of exceptions. -/
structure Alike (m m' : Wire.License) : Prop where
  /-- The tokens are the same up to the case of names. -/
  types : SameMembers (Recased IsLicenseTypeName) m.types m'.types
  /-- The exceptions are the same labels. -/
  exceptions : SameMembers Respelled m.exceptions m'.exceptions

variable {m m' : Wire.License}

lemma Alike.inOrder_iff (h : m.Alike m') : m.InOrder ↔ m'.InOrder := by
  have htypes := h.types.forall_iff
    (P := fun token => (∃ type : LicenseType, SameInAnyCase token type.text) ∨
      ∃ text, token = License.exceptionMark ++ text ∧ ∃ label, Label.parse text = .ok label)
    fun _ _ hr => by simp only [hr.names_iff, hr.marked_iff]
  have hexceptions := h.exceptions.forall_iff
    (P := fun text => ∃ label, Label.parse text = .ok label)
    fun _ _ hr => by simp only [hr.parse_eq_ok_iff]
  exact ⟨fun hm => ⟨htypes.1 hm.types, hexceptions.1 hm.exceptions⟩,
    fun hm => ⟨htypes.2 hm.types, hexceptions.2 hm.exceptions⟩⟩

lemma Alike.names_iff (h : m.Alike m') (type : LicenseType) : m.Names type ↔ m'.Names type :=
  h.types.exists_iff fun _ _ hr => hr.names_iff

lemma Alike.excepts_iff (h : m.Alike m') (label : Label) : m.Excepts label ↔ m'.Excepts label :=
  or_congr
    (h.types.exists_iff fun _ _ hr => by simp only [hr.marked_iff])
    (h.exceptions.exists_iff fun _ _ hr => hr.parse_eq_ok_iff)

/-- Licenses of messages that are alike are read as the same license. -/
theorem Alike.ofWire_eq_ok_iff (h : m.Alike m') {l : BuildPackage.License} :
    License.ofWire m' = .ok l ↔ License.ofWire m = .ok l := by
  have hmeans : m.Means l ↔ m'.Means l := by
    constructor <;>
    · rintro ⟨htypes, hexceptions⟩
      refine ⟨fun type => ?_, fun label => ?_⟩
      · rw [htypes]
        simp only [h.names_iff]
      · rw [hexceptions, h.excepts_iff]
  rw [Wire.License.ofWire_eq_ok_iff, Wire.License.ofWire_eq_ok_iff, h.inOrder_iff, hmeans]

/-- How a license of a message is read: as a set of types and a set of exceptions. -/
structure ReadAsSets (m : Wire.License) : Prop where
  /-- It is read exactly if all its elements are in order. -/
  isOk_iff : (License.ofWire m).isOk = true ↔ m.InOrder
  /-- It is read as what it says. -/
  means : ∀ l, License.ofWire m = .ok l → m.Means l
  /-- There is always a type. -/
  types_ne_empty : ∀ l, License.ofWire m = .ok l → l.types ≠ ∅
  /-- The types do not depend on the exceptions. -/
  types_eq : ∀ exceptions l l', License.ofWire m = .ok l →
    License.ofWire { m with exceptions } = .ok l' → l'.types = l.types
  /-- A license that is alike is read as the same license. -/
  alike : ∀ m' : Wire.License, m.Alike m' →
    ∀ l, License.ofWire m' = .ok l ↔ License.ofWire m = .ok l
  /-- It is refused for the reason of its first element that is refused. -/
  error_iff : ∀ e, License.ofWire m = .error e ↔
    ∃ reason, m.FirstRefused reason ∧ e = .license reason

lemma readAsSets (m : Wire.License) : m.ReadAsSets where
  isOk_iff := isOk_ofWire_iff
  means _ h := (ofWire_eq_ok_iff.1 h).2
  types_ne_empty _ h := License.types_ne_empty_of_mem_iff (ofWire_eq_ok_iff.1 h).2.types
  types_eq _ _ _ h h' := Std.ExtTreeSet.ext_mem fun type =>
    ((ofWire_eq_ok_iff.1 h').2.types type).trans ((ofWire_eq_ok_iff.1 h).2.types type).symm
  alike _ h _ := h.ofWire_eq_ok_iff
  error_iff _ := ofWire_eq_error_iff

end Wire.License

/-! ## Distributions -/

namespace Distribution

variable {tokens tokens' : List String} {s : Std.ExtTreeSet Distribution}

/-- How a list of distributions is read: as a set. -/
structure ReadAsSets (tokens : List String) : Prop where
  /-- It is read exactly if all its tokens are names. -/
  isOk_iff : (readDistributions tokens).isOk = true ↔ ∀ token ∈ tokens, IsDistributionName token
  /-- It is read as the set of what it names. -/
  mem_iff : ∀ s, readDistributions tokens = .ok s →
    ∀ d, d ∈ s ↔ ∃ token ∈ tokens, SameInAnyCase token d.text
  /-- Lists of the same names are read as the same set. -/
  alike : ∀ tokens', SameMembers (Recased IsDistributionName) tokens tokens' →
    ∀ s, readDistributions tokens' = .ok s ↔ readDistributions tokens = .ok s
  /-- It is refused because of the first token that is no name. -/
  error_iff : ∀ e, readDistributions tokens = .error e ↔ ∃ token,
    Outcome.FirstRefused IsDistributionName (fun token given => ¬ IsDistributionName token ∧
      given = token) tokens token ∧ e = .unknownDistribution token

/-- The distribution that a text names. -/
def parse (token : String) : Except String Distribution := (ofToken? token).elim (.error token) .ok

lemma parseAll_eq (tokens : List String) :
    parseAll tokens = (Std.ExtTreeSet.ofList · compare) <$> tokens.mapM parse := rfl

lemma parse_eq_ok_iff {token : String} {d : Distribution} :
    parse token = .ok d ↔ SameInAnyCase token d.text := by
  rw [← ofToken?_eq_some_iff, parse]
  cases ofToken? token <;> simp

lemma parse_eq_error_iff {token given : String} :
    parse token = .error given ↔ ¬ IsDistributionName token ∧ given = token := by
  simp only [IsDistributionName, ← ofToken?_eq_some_iff, parse]
  cases ofToken? token <;> simp [eq_comm]

/-- A text names one distribution only. -/
lemma eq_of_sameInAnyCase {token : String} {d d' : Distribution}
    (h : SameInAnyCase token d.text) (h' : SameInAnyCase token d'.text) : d = d' := by
  rw [← parse_eq_ok_iff] at h h'
  exact Except.ok.inj (h.symm.trans h')

/-- The set of what some tokens name. -/
lemma mem_ofList_iff {ds : List Distribution}
    (h : List.Forall₂ (fun token d => SameInAnyCase token d.text) tokens ds) (d : Distribution) :
    d ∈ Std.ExtTreeSet.ofList ds ↔ ∃ token ∈ tokens, SameInAnyCase token d.text := by
  rw [Std.ExtTreeSet.mem_ofList, List.contains_iff_mem]
  exact Outcome.mem_iff_of_forall₂ h fun _ _ _ => eq_of_sameInAnyCase

/-- A list of distributions is read exactly if all its tokens are names, and as the set of what they
name. -/
theorem readDistributions_eq_ok_iff :
    readDistributions tokens = .ok s ↔ (∀ token ∈ tokens, IsDistributionName token) ∧
      ∀ d, d ∈ s ↔ ∃ token ∈ tokens, SameInAnyCase token d.text := by
  simp only [readDistributions, parseAll_eq, Outcome.mapError_eq_ok_iff, Outcome.map_eq_ok_iff,
    Outcome.mapM_eq_ok_iff, parse_eq_ok_iff]
  constructor
  · rintro ⟨ds, hds, rfl⟩
    exact ⟨Outcome.exists_forall₂_iff.1 ⟨ds, hds⟩, mem_ofList_iff hds⟩
  · rintro ⟨hnames, hs⟩
    obtain ⟨ds, hds⟩ := Outcome.exists_forall₂_iff.2 hnames
    exact ⟨ds, hds, Std.ExtTreeSet.ext_mem fun d => (mem_ofList_iff hds d).trans (hs d).symm⟩

lemma isOk_readDistributions_iff_names :
    (readDistributions tokens).isOk = true ↔ ∀ token ∈ tokens, IsDistributionName token := by
  simp only [isOk_readDistributions_iff, Option.isSome_iff_exists, ofToken?_eq_some_iff,
    IsDistributionName]

/-- A list of distributions is refused because of its first token that is no name. -/
theorem readDistributions_eq_error_iff {e : DecodeError} :
    readDistributions tokens = .error e ↔ ∃ token,
      Outcome.FirstRefused IsDistributionName
        (fun token given => ¬ IsDistributionName token ∧ given = token) tokens token ∧
          e = .unknownDistribution token := by
  rw [readDistributions, Outcome.mapError_eq_error_iff]
  refine exists_congr fun token => and_congr ?_ eq_comm
  rw [parseAll_eq, Outcome.map_eq_error_iff, Outcome.mapM_eq_error_iff]
  simp only [Outcome.isOk_iff, parse_eq_ok_iff, parse_eq_error_iff]
  exact Iff.rfl

lemma readAsSets (tokens : List String) : ReadAsSets tokens where
  isOk_iff := isOk_readDistributions_iff_names
  mem_iff _ h := (readDistributions_eq_ok_iff.1 h).2
  alike tokens' h s := by
    have hnames : ∀ token token', Recased IsDistributionName token token' →
        (IsDistributionName token ↔ IsDistributionName token') :=
      fun _ _ hr => by simp only [IsDistributionName, hr.names_iff]
    rw [readDistributions_eq_ok_iff, readDistributions_eq_ok_iff, h.forall_iff hnames]
    refine and_congr_right fun _ => forall_congr' fun d => ?_
    rw [h.exists_iff fun _ _ hr => hr.names_iff]
  error_iff _ := readDistributions_eq_error_iff

end Distribution

/-- Licenses and distributions are sets.

A license of a message is read exactly if each of its tokens is the name of a type in some case or a
label marked as an exception, and each of its exceptions is a label. Then its types are those named,
or `none`, and its exceptions are those labels; exceptions never make a type. Neither the order of the
elements nor their number, neither the case of names nor the spelling of exceptions plays a part. The
error is that of the first token that is refused, and then that of the first exception. So it is with
distributions, of which there may be none.

**Proof sketch.** An element is read by itself and stands for one thing, and sets with the same
members are equal. -/
theorem License.reads_sets (m : Wire.License) (tokens : List String) :
    m.ReadAsSets ∧ Distribution.ReadAsSets tokens ∧ readDistributions [] = .ok ∅ :=
  ⟨m.readAsSets, Distribution.readAsSets tokens, rfl⟩

/-- A license in another order, with a repetition, another case and another spelling; a license with
two elements that are refused; and distributions in another order. -/
theorem License.reads_sets_of_mixed_case :
    let m : Wire.License := { types := ["Notice", "exception=//a:b,"], exceptions := ["//x/y"] }
    let m' : Wire.License :=
      { types := ["exception=//a:b,", "NOTICE", "notice"], exceptions := ["//x/y:y", "//x/y"] }
    (∃ l, License.ofWire m = .ok l ∧ License.ofWire m' = .ok l ∧ l.types ≠ ∅) ∧
      License.ofWire { types := ["web"], exceptions := ["notice"] } =
        .error (.license (.unknownType "web")) ∧
      ∃ s, readDistributions ["web", "Client"] = .ok s ∧
        readDistributions ["client", "web", "WEB"] = .ok s := by
  intro m m'
  have hok : (License.ofWire m).isOk = true := by decide +kernel
  have hxy : (Label.parse "//x/y").isOk = true := by decide +kernel
  obtain ⟨l, hl⟩ := Outcome.isOk_iff.1 hok
  obtain ⟨label, hlabel⟩ := Outcome.isOk_iff.1 hxy
  have hfull : Label.parse "//x/y:y" = .ok label := by
    rw [← hlabel]
    exact (@Label.Expands.full "x/y" (by decide) hxy).parse_eq
  have hnotice : IsLicenseTypeName "Notice" := ⟨.notice, by decide⟩
  have halike : m.Alike m' := by
    refine ⟨⟨?_, ?_⟩, ⟨?_, ?_⟩⟩ <;>
      simp only [m, m', List.forall_mem_cons, List.exists_mem_cons_iff]
    · exact ⟨.inr (.inl (.case hnotice (by decide))), .inl (.same _), by simp⟩
    · exact ⟨.inr (.inl (.same _)), .inl (.case hnotice (by decide)),
        .inl (.case hnotice (by decide)), by simp⟩
    · exact ⟨.inl (.label hlabel hfull), by simp⟩
    · exact ⟨.inl (.label hlabel hfull), .inl (.same _), by simp⟩
  have hrefused : License.Token.Refused "web" (.unknownType "web") := by
    rw [← License.Token.parse_eq_error_iff]
    decide +kernel
  obtain ⟨hm, hdistributions, -⟩ := License.reads_sets m ["web", "Client"]
  obtain ⟨hweb, -, -⟩ := License.reads_sets { types := ["web"], exceptions := ["notice"] } []
  refine ⟨⟨l, hl, (hm.alike m' halike l).2 hl, hm.types_ne_empty l hl⟩,
    (hweb.error_iff _).2 ⟨_, .inl ⟨[], "web", [], rfl, by simp, hrefused⟩, rfl⟩, ?_⟩
  have hnames : ∀ token ∈ ["web", "Client"], IsDistributionName token := by
    simp only [List.forall_mem_cons]
    exact ⟨⟨.web, by decide⟩, ⟨.client, by decide⟩, by simp⟩
  obtain ⟨s, hs⟩ := Outcome.isOk_iff.1 (hdistributions.isOk_iff.2 hnames)
  refine ⟨s, hs, (hdistributions.alike _ ⟨?_, ?_⟩ s).2 hs⟩ <;>
    simp only [List.forall_mem_cons, List.exists_mem_cons_iff]
  · exact ⟨.inr (.inl (.same _)), .inl (.case ⟨.client, by decide⟩ (by decide)), by simp⟩
  · exact ⟨.inr (.inl (.case ⟨.client, by decide⟩ (by decide))), .inl (.same _),
      .inl (.case ⟨.web, by decide⟩ (by decide)), by simp⟩

end BuildPackage
