import BuildPackage.Attribute.OfWire
import BuildPackage.Proofs.Text.AsciiCase

set_option relaxedAutoImplicit false
set_option autoImplicit false

/-!
# Reading licenses

A license is read token by token: each token stands for a type or for an exception, or it is refused
for a reason. The license of a list of tokens is the one that gathers what they stand for. A message
keeps its exceptions apart from its tokens. They are read after these, as marked tokens, and since no
name of a type begins like the mark, an exception is never taken for a type.

## Main definitions

* `BuildPackage.License.Token.Written`, `BuildPackage.License.Token.Refused` — what a token stands for,
  and why it is refused.
* `BuildPackage.License.Gathers` — a license that says what some tokens say.
* `BuildPackage.Wire.License.InOrder`, `BuildPackage.Wire.License.Means` — when a license of a message
  is accepted, and what it says.
* `BuildPackage.Wire.License.FirstRefused` — the first element that is refused.

## Main results

* `BuildPackage.License.Token.parse_eq_ok_iff` — a token is read as what it stands for.
* `BuildPackage.License.parse_eq_ok_iff` — a list of tokens is read as the license that gathers them.
* `BuildPackage.Wire.License.ofWire_eq_ok_iff` — a license of a message is read as what it says.
* `BuildPackage.Wire.License.ofWire_eq_error_iff` — a license of a message is refused for its first
  element that is refused.
-/

namespace BuildPackage

/-! ## Names -/

/-- A text names a license type exactly if it is the name of the type in some case. -/
theorem LicenseType.ofToken?_eq_some_iff {token : String} {type : LicenseType} :
    ofToken? token = some type ↔ SameInAnyCase token type.text := by
  refine find?_text_eq_some_iff ?_ (by simp [all, text]) ?_
  · intro type
    cases type <;> decide
  · intro type
    cases type <;> simp [text]

/-- A text names a distribution exactly if it is the name of the distribution in some case. -/
theorem Distribution.ofToken?_eq_some_iff {token : String} {d : Distribution} :
    ofToken? token = some d ↔ SameInAnyCase token d.text := by
  refine find?_text_eq_some_iff ?_ (by simp [all, text]) ?_
  · intro d
    cases d <;> decide
  · intro d
    cases d <;> simp [text]

namespace License

/-! ## Tokens -/

/-- What a token of a license stands for. -/
inductive Token.Written : String → Token → Prop
  /-- The name of a type, in some case. -/
  | type {token : String} {type : LicenseType} (h : SameInAnyCase token type.text) :
      Written token (.ofType type)
  /-- A label behind the mark of an exception. -/
  | exception {text : String} {label : Label} (h : Label.parse text = .ok label) :
      Written (exceptionMark ++ text) (.ofException label)

/-- Why a token of a license is refused. -/
inductive Token.Refused : String → LicenseError → Prop
  /-- It is not marked as an exception and names no type. -/
  | unknownType {token : String} (hmark : ∀ text, token ≠ exceptionMark ++ text)
      (htype : ∀ type : LicenseType, ¬ SameInAnyCase token type.text) :
      Refused token (.unknownType token)
  /-- It is marked as an exception of something that is no label. -/
  | badException {text : String} {e : LabelError} (h : Label.parse text = .error e) :
      Refused (exceptionMark ++ text) (.badException e)

/-- No name of a type is marked as an exception: none of them begins with the same letter. -/
lemma not_sameInAnyCase_marked (text : String) (type : LicenseType) :
    ¬ SameInAnyCase (exceptionMark ++ text) type.text := by
  intro h
  rw [SameInAnyCase, String.toList_append] at h
  have hletter : ∀ c ∈ type.text.toList.head?, ¬ SameLetter 'e' c := by
    cases type <;> simp [LicenseType.text, SameLetter, IsCapitalOf]
  generalize type.text.toList = cs at h hletter
  rcases h with _ | ⟨hhead, -⟩
  exact hletter _ rfl hhead

/-- A marked token is read as an exception, whatever stands behind the mark. -/
lemma Token.parse_marked (text : String) :
    Token.parse (exceptionMark ++ text) =
      (Token.ofException <$> Label.parse text).mapError .badException := by
  rw [Token.parse, String.toList_append, if_pos (List.prefix_append _ _), List.drop_left,
    String.ofList_toList]
  cases Label.parse text <;> rfl

/-- A token that is not marked is read as a type. -/
lemma Token.parse_unmarked {token : String} (h : ∀ text, token ≠ exceptionMark ++ text) :
    Token.parse token =
      (LicenseType.ofToken? token).elim (.error (.unknownType token)) fun t => .ok (.ofType t) := by
  have hmark : ¬ exceptionMark.toList <+: token.toList := by
    rintro ⟨rest, hrest⟩
    apply h (String.ofList rest)
    rw [← String.toList_inj, ← hrest]
    simp
  rw [Token.parse, if_neg hmark]
  cases LicenseType.ofToken? token <;> rfl

/-- A token is read as what it stands for. -/
theorem Token.parse_eq_ok_iff {token : String} {t : Token} :
    Token.parse token = .ok t ↔ Written token t := by
  constructor
  · intro h
    by_cases hmark : ∃ text, token = exceptionMark ++ text
    · obtain ⟨text, rfl⟩ := hmark
      rw [parse_marked, Outcome.mapError_eq_ok_iff, Outcome.map_eq_ok_iff] at h
      obtain ⟨label, hlabel, rfl⟩ := h
      exact .exception hlabel
    · rw [not_exists] at hmark
      rw [parse_unmarked hmark] at h
      cases htype : LicenseType.ofToken? token with
      | none =>
        rw [htype] at h
        cases h
      | some type =>
        rw [htype] at h
        obtain rfl := Except.ok.inj h
        exact .type (LicenseType.ofToken?_eq_some_iff.1 htype)
  · intro h
    cases h with
    | @type _ type h =>
      have hmark : ∀ text, token ≠ exceptionMark ++ text := by
        rintro text rfl
        exact not_sameInAnyCase_marked text type h
      rw [parse_unmarked hmark, LicenseType.ofToken?_eq_some_iff.2 h]
      rfl
    | exception h =>
      rw [parse_marked, h]
      rfl

/-- A token is refused for the reason that there is. -/
theorem Token.parse_eq_error_iff {token : String} {e : LicenseError} :
    Token.parse token = .error e ↔ Refused token e := by
  constructor
  · intro h
    by_cases hmark : ∃ text, token = exceptionMark ++ text
    · obtain ⟨text, rfl⟩ := hmark
      rw [parse_marked] at h
      cases hlabel : Label.parse text with
      | error reason =>
        rw [hlabel] at h
        obtain rfl := Except.error.inj h
        exact .badException hlabel
      | ok label =>
        rw [hlabel] at h
        cases h
    · rw [not_exists] at hmark
      rw [parse_unmarked hmark] at h
      cases htype : LicenseType.ofToken? token with
      | none =>
        rw [htype] at h
        obtain rfl := Except.error.inj h
        refine .unknownType hmark fun type hname => ?_
        rw [LicenseType.ofToken?_eq_some_iff.2 hname] at htype
        cases htype
      | some type =>
        rw [htype] at h
        cases h
  · intro h
    cases h with
    | unknownType hmark htype =>
      have hnone : LicenseType.ofToken? token = none :=
        Option.eq_none_iff_forall_ne_some.2 fun type h =>
          htype type (LicenseType.ofToken?_eq_some_iff.1 h)
      rw [parse_unmarked hmark, hnone]
      rfl
    | badException h =>
      rw [parse_marked, h]
      rfl

/-- A token stands for one thing only. -/
lemma Token.Written.unique {token : String} {t t' : Token} (h : Written token t)
    (h' : Written token t') : t = t' := by
  rw [← parse_eq_ok_iff] at h h'
  exact Except.ok.inj (h.symm.trans h')

/-! ## Sets of tokens -/

variable {tokens : List String} {l : License}

/-- Licenses with the same types and exceptions are the same. -/
lemma eq_of_mem_iff {l' : License} (htypes : ∀ type, type ∈ l.types ↔ type ∈ l'.types)
    (hexceptions : ∀ label, label ∈ l.exceptions ↔ label ∈ l'.exceptions) : l = l' := by
  have htypes := Std.ExtTreeSet.ext_mem htypes
  have hexceptions := Std.ExtTreeSet.ext_mem hexceptions
  cases l
  cases l'
  congr

/-- The license of a list of tokens has their types, or the type `none` if there are none. -/
lemma mem_types_ofTokens {ts : List Token} {type : LicenseType} :
    type ∈ (ofTokens ts).types ↔
      .ofType type ∈ ts ∨ type = .none ∧ ∀ type', .ofType type' ∉ ts := by
  have hmem : ∀ type, type ∈ ts.filterMap Token.type? ↔ .ofType type ∈ ts := by
    intro type
    rw [List.mem_filterMap]
    constructor
    · rintro ⟨t | label, ht, h⟩
      · obtain rfl := Option.some.inj h
        exact ht
      · cases h
    · exact fun h => ⟨_, h, rfl⟩
  simp only [← hmem, ofTokens]
  cases ts.filterMap Token.type? with
  | nil =>
    have hcompare : compare LicenseType.none type = .eq ↔ type = .none := by
      rw [Std.LawfulEqCmp.compare_eq_iff_eq, eq_comm]
    simp [hcompare]
  | cons t rest =>
    have hnone : ¬ (type = .none ∧ ∀ type', type' ∉ t :: rest) :=
      fun h => h.2 t List.mem_cons_self
    rw [Std.ExtTreeSet.mem_ofList, List.contains_iff_mem, or_iff_left hnone]

/-- There is always a type if `none` stands in where there would be no other one. -/
lemma types_ne_empty_of_mem_iff {types : Std.ExtTreeSet LicenseType} {named : LicenseType → Prop}
    (h : ∀ type, type ∈ types ↔ named type ∨ type = .none ∧ ∀ type', ¬ named type') :
    types ≠ ∅ := by
  intro hempty
  rw [Std.ExtTreeSet.eq_empty_iff_forall_not_mem] at hempty
  have hnamed : ∀ type, ¬ named type := fun type hname => hempty type ((h type).2 (.inl hname))
  exact hempty .none ((h .none).2 (.inr ⟨rfl, hnamed⟩))

/-- The license of a list of tokens has their exceptions. -/
lemma mem_exceptions_ofTokens {ts : List Token} {label : Label} :
    label ∈ (ofTokens ts).exceptions ↔ .ofException label ∈ ts := by
  have hmem : label ∈ ts.filterMap Token.exception? ↔ .ofException label ∈ ts := by
    rw [List.mem_filterMap]
    constructor
    · rintro ⟨t | label, ht, h⟩
      · cases h
      · obtain rfl := Option.some.inj h
        exact ht
    · exact fun h => ⟨_, h, rfl⟩
  rw [← hmem, ofTokens, Std.ExtTreeSet.mem_ofList, List.contains_iff_mem]

/-- A license that says what some tokens say: every token stands for something, the types are those
that are named, or `none` if no type is named, and the exceptions are those that are marked. -/
structure Gathers (tokens : List String) (l : License) : Prop where
  /-- Every token stands for something. -/
  written : ∀ token ∈ tokens, ∃ t, Token.Written token t
  /-- The types are those named. -/
  mem_types : ∀ type, type ∈ l.types ↔
    (∃ token ∈ tokens, Token.Written token (.ofType type)) ∨
      type = .none ∧ ∀ type', ¬ ∃ token ∈ tokens, Token.Written token (.ofType type')
  /-- The exceptions are those marked. -/
  mem_exceptions : ∀ label, label ∈ l.exceptions ↔
    ∃ token ∈ tokens, Token.Written token (.ofException label)

/-- Tokens are gathered in one license only. -/
lemma Gathers.unique {l' : License} (h : Gathers tokens l) (h' : Gathers tokens l') : l = l' :=
  eq_of_mem_iff (fun type => (h.mem_types type).trans (h'.mem_types type).symm)
    fun label => (h.mem_exceptions label).trans (h'.mem_exceptions label).symm

/-- The license of what some tokens stand for gathers them. -/
lemma gathers_ofTokens {ts : List Token}
    (h : List.Forall₂ (fun token t => Token.Written token t) tokens ts) :
    Gathers tokens (ofTokens ts) := by
  have hmem : ∀ t, t ∈ ts ↔ ∃ token ∈ tokens, Token.Written token t :=
    fun _ => Outcome.mem_iff_of_forall₂ h fun _ _ _ => Token.Written.unique
  refine ⟨Outcome.exists_forall₂_iff.1 ⟨ts, h⟩, fun type => ?_, fun label => ?_⟩
  · simp only [mem_types_ofTokens, hmem]
  · rw [mem_exceptions_ofTokens, hmem]

/-- Reading a list of tokens succeeds exactly with the license that gathers them.

**Proof sketch.** Each token is read as what it stands for. There is one license of these, and
nothing else gathers them. -/
theorem parse_eq_ok_iff : License.parse tokens = .ok l ↔ Gathers tokens l := by
  have hread : ∀ ts, tokens.mapM Token.parse = .ok ts ↔
      List.Forall₂ (fun token t => Token.Written token t) tokens ts := by
    intro ts
    rw [Outcome.mapM_eq_ok_iff]
    simp only [Token.parse_eq_ok_iff]
  simp only [License.parse, Outcome.bind_eq_ok_iff, Outcome.pure_eq_ok_iff, hread]
  constructor
  · rintro ⟨ts, hts, rfl⟩
    exact gathers_ofTokens hts
  · intro h
    obtain ⟨ts, hts⟩ := Outcome.exists_forall₂_iff.2 h.written
    exact ⟨ts, hts, (gathers_ofTokens hts).unique h⟩

end License

/-! ## Licenses of messages -/

namespace Wire.License

variable {m m' : Wire.License} {l : BuildPackage.License}

/-- A license of a message that is in order: its tokens are names of types or marked labels, and its
exceptions are labels. -/
structure InOrder (m : Wire.License) : Prop where
  /-- Every token is the name of a type in some case, or a marked label. -/
  types : ∀ token ∈ m.types, (∃ type : LicenseType, SameInAnyCase token type.text) ∨
    ∃ text, token = License.exceptionMark ++ text ∧ ∃ label, Label.parse text = .ok label
  /-- Every exception is a label. -/
  exceptions : ∀ text ∈ m.exceptions, ∃ label, Label.parse text = .ok label

/-- A token of the license is the name of a type. -/
def Names (m : Wire.License) (type : LicenseType) : Prop :=
  ∃ token ∈ m.types, SameInAnyCase token type.text

/-- A marked token or an exception of the license is a label. -/
def Excepts (m : Wire.License) (label : Label) : Prop :=
  (∃ token ∈ m.types, ∃ text, token = License.exceptionMark ++ text ∧
    Label.parse text = .ok label) ∨ ∃ text ∈ m.exceptions, Label.parse text = .ok label

/-- What a license of a message says: the types that it names, or `none` if it names none, and the
labels that it excepts. -/
structure Means (m : Wire.License) (l : BuildPackage.License) : Prop where
  /-- The types are those named. -/
  types : ∀ type, type ∈ l.types ↔ m.Names type ∨ type = .none ∧ ∀ type', ¬ m.Names type'
  /-- The exceptions are those excepted. -/
  exceptions : ∀ label, label ∈ l.exceptions ↔ m.Excepts label

/-- The tokens of a license, with its exceptions as marked tokens. -/
lemma exists_written_type_iff {type : LicenseType} :
    (∃ token ∈ m.types ++ m.exceptions.map (License.exceptionMark ++ ·),
      License.Token.Written token (.ofType type)) ↔ m.Names type := by
  constructor
  · rintro ⟨token, htoken, hw⟩
    cases hw with
    | type h =>
      rcases List.mem_append.1 htoken with htoken | htoken
      · exact ⟨token, htoken, h⟩
      · obtain ⟨text, -, rfl⟩ := List.mem_map.1 htoken
        exact absurd h (License.not_sameInAnyCase_marked text type)
  · rintro ⟨token, htoken, h⟩
    exact ⟨token, List.mem_append_left _ htoken, .type h⟩

lemma exists_written_exception_iff {label : Label} :
    (∃ token ∈ m.types ++ m.exceptions.map (License.exceptionMark ++ ·),
      License.Token.Written token (.ofException label)) ↔ m.Excepts label := by
  constructor
  · rintro ⟨token, htoken, hw⟩
    cases hw with
    | @exception text _ h =>
      rcases List.mem_append.1 htoken with htoken | htoken
      · exact .inl ⟨_, htoken, text, rfl, h⟩
      · obtain ⟨text', htext', heq⟩ := List.mem_map.1 htoken
        rw [(String.append_right_inj License.exceptionMark).1 heq] at htext'
        exact .inr ⟨text, htext', h⟩
  · rintro (⟨_, htoken, text, rfl, h⟩ | ⟨text, htext, h⟩)
    · exact ⟨_, List.mem_append_left _ htoken, .exception h⟩
    · exact ⟨_, List.mem_append_right _ (List.mem_map_of_mem htext), .exception h⟩

lemma exists_written_iff {token : String} :
    (∃ t, License.Token.Written token t) ↔
      (∃ type : LicenseType, SameInAnyCase token type.text) ∨
        ∃ text, token = License.exceptionMark ++ text ∧ ∃ label, Label.parse text = .ok label := by
  constructor
  · rintro ⟨_, h | h⟩
    · exact .inl ⟨_, h⟩
    · exact .inr ⟨_, rfl, _, h⟩
  · rintro (⟨type, h⟩ | ⟨text, rfl, label, h⟩)
    · exact ⟨_, .type h⟩
    · exact ⟨_, .exception h⟩

lemma exists_written_marked_iff {text : String} :
    (∃ t, License.Token.Written (License.exceptionMark ++ text) t) ↔
      ∃ label, Label.parse text = .ok label := by
  simp only [← License.Token.parse_eq_ok_iff, License.Token.parse_marked,
    Outcome.mapError_eq_ok_iff, Outcome.map_eq_ok_iff]
  constructor
  · rintro ⟨_, label, h, -⟩
    exact ⟨label, h⟩
  · rintro ⟨label, h⟩
    exact ⟨_, label, h, rfl⟩

lemma forall_written_iff :
    (∀ token ∈ m.types ++ m.exceptions.map (License.exceptionMark ++ ·),
      ∃ t, License.Token.Written token t) ↔ m.InOrder := by
  rw [List.forall_mem_append, List.forall_mem_map]
  simp only [exists_written_marked_iff]
  simp only [exists_written_iff]
  exact ⟨fun h => ⟨h.1, h.2⟩, fun h => ⟨h.types, h.exceptions⟩⟩

/-- A license of a message is read exactly if it is in order, and as the license that says what the
message says. -/
theorem ofWire_eq_ok_iff : License.ofWire m = .ok l ↔ m.InOrder ∧ m.Means l := by
  rw [License.ofWire, Outcome.mapError_eq_ok_iff, License.parse_eq_ok_iff]
  constructor
  · intro h
    refine ⟨forall_written_iff.1 h.written, fun type => ?_, fun label => ?_⟩
    · rw [h.mem_types]
      simp only [exists_written_type_iff]
    · rw [h.mem_exceptions, exists_written_exception_iff]
  · rintro ⟨hinOrder, hmeans⟩
    refine ⟨forall_written_iff.2 hinOrder, fun type => ?_, fun label => ?_⟩
    · rw [hmeans.types]
      simp only [exists_written_type_iff]
    · rw [hmeans.exceptions, exists_written_exception_iff]

/-- A license of a message is read exactly if it is in order. -/
lemma isOk_ofWire_iff : (License.ofWire m).isOk = true ↔ m.InOrder := by
  rw [License.ofWire, Outcome.isOk_mapError, License.parse, Outcome.isOk_bind_pure,
    Outcome.isOk_mapM_iff, ← forall_written_iff]
  simp only [Outcome.isOk_iff, License.Token.parse_eq_ok_iff]

/-! ## Refusals -/

/-- The first element that is refused, among the tokens and then among the exceptions. -/
def FirstRefused (m : Wire.License) (reason : LicenseError) : Prop :=
  Outcome.FirstRefused (fun token => ∃ t, License.Token.Written token t) License.Token.Refused
      m.types reason ∨
    (∀ token ∈ m.types, ∃ t, License.Token.Written token t) ∧
      Outcome.FirstRefused (fun text => ∃ label, Label.parse text = .ok label)
        (fun text reason => ∃ e, Label.parse text = .error e ∧ reason = .badException e)
        m.exceptions reason

/-- A marked text is refused exactly if it is no label. -/
lemma refused_marked_iff {text : String} {reason : LicenseError} :
    License.Token.Refused (License.exceptionMark ++ text) reason ↔
      ∃ e, Label.parse text = .error e ∧ reason = .badException e := by
  rw [← License.Token.parse_eq_error_iff, License.Token.parse_marked,
    Outcome.mapError_eq_error_iff]
  exact exists_congr fun e => and_congr Outcome.map_eq_error_iff eq_comm

/-- A license of a message is refused for the reason of the first element that is refused.

**Proof sketch.** The exceptions are read after the tokens, as marked tokens, and each list is read up
to the first element that is refused. -/
theorem ofWire_eq_error_iff {e : DecodeError} :
    License.ofWire m = .error e ↔ ∃ reason, m.FirstRefused reason ∧ e = .license reason := by
  have hparse : ∀ tokens reason, License.parse tokens = .error reason ↔
      tokens.mapM License.Token.parse = .error reason :=
    fun tokens reason => Outcome.map_eq_error_iff (f := License.ofTokens)
  rw [License.ofWire, Outcome.mapError_eq_error_iff]
  refine exists_congr fun reason => and_congr ?_ eq_comm
  rw [hparse, Outcome.mapM_append_eq_error_iff, List.mapM_map, Outcome.mapM_eq_error_iff,
    Outcome.mapM_eq_error_iff, FirstRefused]
  simp only [Function.comp_def, Outcome.isOk_iff, License.Token.parse_eq_ok_iff,
    exists_written_marked_iff, License.Token.parse_eq_error_iff, refused_marked_iff]

end Wire.License

end BuildPackage
