import BuildPackage.Proofs.Label.Reading
import BuildPackage.Proofs.Outcome

set_option relaxedAutoImplicit false
set_option autoImplicit false

/-!
# The grammar of labels

The texts that are read as labels, said without the order in which they are checked. A name is a
sequence of segments with slashes between them; a segment is neither empty nor `.` nor `..`, and all
its characters are letters of an alphabet. A label is a package and a target name behind two slashes,
with a colon between them or with the name left out.

A name that is left out is the last segment of the package, and so it is in order wherever the
package is. It is the reason to refuse a text only if there is none: behind a slash, and where there
is nothing behind the two slashes at all.

## Main definitions

* `BuildPackage.IsSegment`, `BuildPackage.IsName` — names over an alphabet.
* `BuildPackage.IsPackageName`, `BuildPackage.IsTargetName` — the names in a label.
* `BuildPackage.Label.Written` — the ways to write a package and a name in one text.
* `BuildPackage.Label.ShortFault` — the reason to refuse a package with its name left out.

## Main results

* `BuildPackage.nameFault?_eq_none_iff` — the names in which no rule is broken.
* `BuildPackage.IsPackageName.defaultName` — a name that is left out is in order.
* `BuildPackage.Label.parse_eq_ok_iff` — the labels that a text is read as.
* `BuildPackage.Label.parse_short_eq_error_iff` — what a text without a colon is refused for.
* `BuildPackage.Label.accepts_grammar` — the texts that are read, and what comes of them.
-/

namespace BuildPackage

/-! ## Names -/

/-- A segment over an alphabet. -/
structure IsSegment (letter : Char → Prop) (s : List Char) : Prop where
  /-- The segment is not empty. -/
  ne_nil : s ≠ []
  /-- The segment is not the directory itself. -/
  ne_dot : s ≠ ['.']
  /-- The segment is not the directory above. -/
  ne_dots : s ≠ ['.', '.']
  /-- All characters are letters. -/
  letters : ∀ c ∈ s, letter c

/-- A name over an alphabet: one segment or more, with slashes between them. -/
def IsName (letter : Char → Prop) (name : String) : Prop :=
  ∃ segments, segments ≠ [] ∧ name.toList = Segments.join segments ∧
    ∀ s ∈ segments, IsSegment letter s

lemma IsSegment.mono {letter letter' : Char → Prop} (h : ∀ c, letter c → letter' c)
    {s : List Char} (hs : IsSegment letter s) : IsSegment letter' s :=
  ⟨hs.ne_nil, hs.ne_dot, hs.ne_dots, fun c hc => h c (hs.letters c hc)⟩

lemma segmentFault?_eq_none_iff {s : List Char} :
    segmentFault? s = none ↔ s ≠ [] ∧ s ≠ ['.'] ∧ s ≠ ['.', '.'] := by
  unfold segmentFault?
  split_ifs with hnil hdots
  · simp [hnil]
  · rcases hdots with rfl | rfl <;> simp
  · rw [not_or] at hdots
    exact iff_of_true rfl ⟨hnil, hdots⟩

section

variable {letter : Char → Prop} {name : String}

/-- A name over an alphabet without the slash is one whose segments are in order. -/
lemma isName_iff (hslash : ¬ letter '/') :
    IsName letter name ↔ ∀ s ∈ Segments.split name.toList, IsSegment letter s := by
  constructor
  · rintro ⟨segments, hne, hname, h⟩
    have hsplit : Segments.split (Segments.join segments) = segments :=
      Segments.split_join hne fun s hs hmem => hslash ((h s hs).letters _ hmem)
    rwa [hname, hsplit]
  · intro h
    exact ⟨_, Segments.split_ne_nil _, (Segments.join_split _).symm, h⟩

/-- What is no letter and no slash does not occur in a name. -/
lemma IsName.notMem (hslash : ¬ letter '/') (h : IsName letter name) {c : Char} (hc : ¬ letter c)
    (hne : c ≠ '/') : c ∉ name.toList := by
  intro hmem
  obtain ⟨s, hs, hcs⟩ := Segments.exists_mem_split_iff.2 ⟨hmem, hne⟩
  exact hc (((isName_iff hslash).1 h s hs).letters c hcs)

/-- A slash at either end of a text leaves an empty segment there. -/
lemma nil_mem_split_of_slash {cs : List Char}
    (h : cs.head? = some '/' ∨ cs.getLast? = some '/') : [] ∈ Segments.split cs := by
  rcases h with h | h
  · obtain ⟨rest, rfl⟩ := List.head?_eq_some_iff.1 h
    rw [Segments.split, if_pos rfl]
    exact List.mem_cons_self
  · obtain ⟨front, rfl⟩ := List.getLast?_eq_some_iff.1 h
    rw [Segments.split_append]
    exact List.mem_append_right _ List.mem_cons_self

/-- No rule is broken exactly in the names over the alphabet.

**Proof sketch.** The segments decide about the slashes at both ends, which leave empty segments. The
characters of the text are the slashes, which belong to the alphabet of the rule, and the characters
of the segments. -/
theorem nameFault?_eq_none_iff {alphabet : Char → Bool} (hslash : ¬ letter '/')
    (halphabet : ∀ c, alphabet c = true ↔ letter c ∨ c = '/') :
    nameFault? alphabet name.toList = none ↔ IsName letter name := by
  have hends : ∀ {cs : List Char}, cs.head? = some '/' ∨ cs.getLast? = some '/' →
      ¬ ∀ s ∈ Segments.split cs, IsSegment letter s :=
    fun h hall => (hall [] (nil_mem_split_of_slash h)).ne_nil rfl
  have hchars : name.toList.all alphabet = true ↔
      ∀ s ∈ Segments.split name.toList, ∀ c ∈ s, letter c := by
    rw [List.all_eq_true]
    constructor
    · intro h s hs c hc
      obtain ⟨hmem, hne⟩ := Segments.exists_mem_split_iff.1 ⟨s, hs, hc⟩
      exact ((halphabet c).1 (h c hmem)).resolve_right hne
    · intro h c hc
      rw [halphabet]
      by_cases hne : c = '/'
      · exact .inr hne
      · obtain ⟨s, hs, hcs⟩ := Segments.exists_mem_split_iff.2 ⟨hc, hne⟩
        exact .inl (h s hs c hcs)
  have hsegments : (∀ s ∈ Segments.split name.toList, IsSegment letter s) ↔
      (∀ s ∈ Segments.split name.toList, segmentFault? s = none) ∧
        name.toList.all alphabet = true := by
    rw [hchars, ← forall₂_and]
    refine forall₂_congr fun s _ => ?_
    rw [segmentFault?_eq_none_iff]
    exact ⟨fun h => ⟨⟨h.ne_nil, h.ne_dot, h.ne_dots⟩, h.letters⟩,
      fun ⟨⟨h, h', h''⟩, hl⟩ => ⟨h, h', h'', hl⟩⟩
  rw [isName_iff hslash]
  unfold nameFault?
  by_cases hhead : name.toList.head? = some '/'
  · rw [if_pos hhead]
    exact iff_of_false (by simp) (hends (.inl hhead))
  rw [if_neg hhead]
  by_cases hlast : name.toList.getLast? = some '/'
  · rw [if_pos hlast]
    exact iff_of_false (by simp) (hends (.inr hlast))
  rw [if_neg hlast, hsegments, ← List.findSome?_eq_none_iff]
  cases (Segments.split name.toList).findSome? segmentFault? with
  | some fault => simp
  | none => simp

end

/-! ## The names in a label -/

/-- The letters of package names: ASCII letters and digits and `- . _ @ + = , ~`. -/
def IsPackageLetter (c : Char) : Prop :=
  ('a' ≤ c ∧ c ≤ 'z') ∨ ('A' ≤ c ∧ c ≤ 'Z') ∨ ('0' ≤ c ∧ c ≤ '9') ∨
    c ∈ ['-', '.', '_', '@', '+', '=', ',', '~']

/-- The letters of target names: all visible ASCII characters but the colon, and the slash, which
stands between segments. -/
def IsTargetLetter (c : Char) : Prop := '!' ≤ c ∧ c ≤ '~' ∧ c ≠ ':' ∧ c ≠ '/'

/-- The names of packages other than the root package. -/
def IsPackageName (package : String) : Prop := IsName IsPackageLetter package

/-- The names of targets. -/
def IsTargetName (name : String) : Prop := IsName IsTargetLetter name

lemma isAlphanum_iff (c : Char) :
    c.isAlphanum = true ↔
      (('a' ≤ c ∧ c ≤ 'z') ∨ ('A' ≤ c ∧ c ≤ 'Z')) ∨ ('0' ≤ c ∧ c ≤ '9') := by
  have hrange : ∀ a z : Char, (decide (a.val ≤ c.val) && decide (c.val ≤ z.val)) = true ↔
      a ≤ c ∧ c ≤ z := by
    intro a z
    rw [Bool.and_eq_true, decide_eq_true_iff, decide_eq_true_iff]
    rfl
  have hupper : c.isUpper = true ↔ 'A' ≤ c ∧ c ≤ 'Z' := decide_eq_true_iff
  have hlower : c.isLower = true ↔ 'a' ≤ c ∧ c ≤ 'z' := hrange 'a' 'z'
  have hdigit : c.isDigit = true ↔ '0' ≤ c ∧ c ≤ '9' := hrange '0' '9'
  have hparts : c.isAlphanum = ((c.isUpper || c.isLower) || c.isDigit) := rfl
  rw [hparts, Bool.or_eq_true, Bool.or_eq_true, hupper, hlower, hdigit,
    or_comm (a := 'A' ≤ c ∧ c ≤ 'Z')]

lemma isPackageChar_iff (c : Char) : isPackageChar c = true ↔ IsPackageLetter c ∨ c = '/' := by
  have hmarks : "/-._@+=,~".toList.contains c = true ↔
      c ∈ ['-', '.', '_', '@', '+', '=', ',', '~'] ∨ c = '/' := by
    simp [or_comm, or_left_comm]
  rw [isPackageChar, Bool.or_eq_true, isAlphanum_iff, hmarks, IsPackageLetter]
  simp only [or_assoc]

lemma isTargetChar_iff (c : Char) : isTargetChar c = true ↔ IsTargetLetter c ∨ c = '/' := by
  simp only [isTargetChar, IsTargetLetter, Bool.and_eq_true, decide_eq_true_eq, bne_iff_ne]
  by_cases hc : c = '/'
  · subst hc
    decide
  · simp [hc, and_assoc]

/-- Every letter of package names is one of target names. -/
lemma IsPackageLetter.isTargetLetter {c : Char} (h : IsPackageLetter c) : IsTargetLetter c := by
  have hbounds : '!' ≤ c ∧ c ≤ '~' := by
    rcases h with ⟨h, h'⟩ | ⟨h, h'⟩ | ⟨h, h'⟩ | h
    · exact ⟨Char.le_trans (b := 'a') (by decide) h, Char.le_trans (b := 'z') h' (by decide)⟩
    · exact ⟨Char.le_trans (b := 'A') (by decide) h, Char.le_trans (b := 'Z') h' (by decide)⟩
    · exact ⟨Char.le_trans (b := '0') (by decide) h, Char.le_trans (b := '9') h' (by decide)⟩
    · simp only [List.mem_cons, List.not_mem_nil, or_false] at h
      rcases h with rfl | rfl | rfl | rfl | rfl | rfl | rfl | rfl <;> decide
  have hne : c ≠ ':' ∧ c ≠ '/' := by
    constructor <;>
    · rintro rfl
      revert h
      unfold IsPackageLetter
      decide
  exact ⟨hbounds.1, hbounds.2, hne⟩

lemma not_isTargetLetter_colon : ¬ IsTargetLetter ':' := fun h => h.2.2.1 rfl

lemma not_isTargetLetter_slash : ¬ IsTargetLetter '/' := fun h => h.2.2.2 rfl

lemma not_isPackageLetter_slash : ¬ IsPackageLetter '/' :=
  fun h => not_isTargetLetter_slash h.isTargetLetter

section

variable {package name : String}

/-- Only the root package has an empty name; all other packages have names over their alphabet. -/
lemma packageFault?_eq_none_iff :
    packageFault? package = none ↔ package = "" ∨ IsPackageName package := by
  unfold packageFault?
  split_ifs with hempty
  · exact iff_of_true rfl (.inl (String.isEmpty_iff.1 hempty))
  · rw [Option.map_eq_none_iff,
      nameFault?_eq_none_iff not_isPackageLetter_slash isPackageChar_iff]
    exact (or_iff_right fun h => hempty (String.isEmpty_iff.2 h)).symm

lemma IsTargetName.ne_empty (h : IsTargetName name) : name ≠ "" := by
  rintro rfl
  exact ((isName_iff not_isTargetLetter_slash).1 h [] (by decide)).ne_nil rfl

lemma targetFault?_eq_none_iff : targetFault? name = none ↔ IsTargetName name := by
  unfold targetFault?
  split_ifs with hempty
  · exact iff_of_false (by simp) fun h => h.ne_empty (String.isEmpty_iff.1 hempty)
  · rw [Option.map_eq_none_iff, nameFault?_eq_none_iff not_isTargetLetter_slash isTargetChar_iff]
    exact Iff.rfl

lemma IsTargetName.colon_notMem (h : IsTargetName name) : ':' ∉ name.toList :=
  h.notMem not_isTargetLetter_slash not_isTargetLetter_colon (by decide)

lemma IsPackageName.isTargetName (h : IsPackageName package) : IsTargetName package := by
  obtain ⟨segments, hne, hname, hsegments⟩ := h
  exact ⟨segments, hne, hname, fun s hs => (hsegments s hs).mono fun _ => (·.isTargetLetter)⟩

/-- A name that is left out is in order wherever the package is.

**Proof sketch.** It is a segment of the package, and the letters of packages are letters of
targets. -/
theorem IsPackageName.defaultName (h : IsPackageName package) :
    IsTargetName (Label.defaultName package) := by
  have hne : Segments.split package.toList ≠ [] := Segments.split_ne_nil _
  have hlast : Segments.last package.toList ∈ Segments.split package.toList := by
    rw [Segments.last, List.getLastD_eq_getLast?, List.getLast?_eq_some_getLast hne]
    exact List.getLast_mem hne
  refine ⟨[Segments.last package.toList], by simp, by simp [Label.defaultName, Segments.join], ?_⟩
  intro s hs
  rw [List.mem_singleton.1 hs]
  exact (isName_iff not_isTargetLetter_slash).1 h.isTargetName _ hlast

/-- The package of a label is the root package or has a name over the alphabet. -/
lemma Label.package_grammar (l : Label) : l.package = "" ∨ IsPackageName l.package :=
  packageFault?_eq_none_iff.1 l.package_valid

lemma Label.name_grammar (l : Label) : IsTargetName l.name :=
  targetFault?_eq_none_iff.1 l.name_valid

/-- The segments of the package of a label, unless it is the root package. -/
lemma Label.segments_package (l : Label) (h : l.package ≠ "") :
    ∀ s ∈ Segments.split l.package.toList, IsSegment IsTargetLetter s :=
  (isName_iff not_isTargetLetter_slash).1 (l.package_grammar.resolve_left h).isTargetName

lemma Label.segments_name (l : Label) :
    ∀ s ∈ Segments.split l.name.toList, IsSegment IsTargetLetter s :=
  (isName_iff not_isTargetLetter_slash).1 l.name_grammar

end

/-! ## Texts -/

namespace Label

/-- The ways to write a package and a name in one text. The colon between them is the first one. -/
inductive Written : String → String → String → Prop
  /-- The package and the name with a colon between them. -/
  | full {package name : String} (h : ':' ∉ package.toList) :
      Written ("//" ++ package ++ ":" ++ name) package name
  /-- The package alone, whose last segment is the name. -/
  | short {package : String} (h : ':' ∉ package.toList) (hne : package ≠ "") :
      Written ("//" ++ package) package (defaultName package)

variable {text package name : String} {e : LabelError}

/-- A refusal of two parts tells which of them is at fault; the package is looked at first. -/
lemma check_eq_error_iff :
    check text package name = .error e ↔ e.text = text ∧
      (packageFault? package = some e.fault ∨
        packageFault? package = none ∧ targetFault? name = some e.fault) := by
  obtain ⟨given, reason⟩ := e
  unfold check
  split <;> simp_all [eq_comm]

/-- A text without two slashes at its beginning is refused. -/
lemma parse_unanchored (h : ∀ rest, text ≠ "//" ++ rest) :
    parse text = .error ⟨text, .unanchored⟩ := by
  unfold parse
  split
  · rename_i rest htext
    refine absurd ?_ (h (String.ofList rest))
    rw [← String.toList_inj, htext]
    simp
  · rfl

/-- A text begins otherwise, or it has no colon after the two slashes, or it has a first one. -/
lemma text_cases (text : String) :
    (∀ rest, text ≠ "//" ++ rest) ∨
      (∃ package, ':' ∉ package.toList ∧ text = "//" ++ package) ∨
        ∃ package name, ':' ∉ package.toList ∧ text = "//" ++ package ++ ":" ++ name := by
  by_cases hanchored : ∃ rest, text = "//" ++ rest
  · obtain ⟨rest, rfl⟩ := hanchored
    refine .inr ?_
    by_cases hcolon : ':' ∈ rest.toList
    · obtain ⟨package, name, hrest, hnot⟩ := List.eq_append_cons_of_mem hcolon
      refine .inr ⟨String.ofList package, String.ofList name, by simpa using hnot, ?_⟩
      rw [← String.toList_inj]
      simp [hrest]
    · exact .inl ⟨rest, hcolon, rfl⟩
  · exact .inl fun rest h => hanchored ⟨rest, h⟩

/-- A refusal carries the text that was to be read. -/
lemma text_eq_of_parse_eq_error (h : parse text = .error e) : e.text = text := by
  rcases text_cases text with hne | ⟨package, hp, rfl⟩ | ⟨package, name, hp, rfl⟩
  · rw [parse_unanchored hne] at h
    rw [← Except.error.inj h]
  · rw [parse_short hp] at h
    split_ifs at h
    · rw [← Except.error.inj h]
    · exact (check_eq_error_iff.1 h).1
  · rw [parse_full hp] at h
    exact (check_eq_error_iff.1 h).1

/-- A text that is read as a label is a way to write the label. -/
lemma written_of_parse {l : Label} (h : parse text = .ok l) : Written text l.package l.name := by
  rcases text_cases text with hne | ⟨package, hp, rfl⟩ | ⟨package, name, hp, rfl⟩
  · rw [parse_unanchored hne] at h
    cases h
  · obtain ⟨hpackage, hname⟩ := parse_eq_of_short hp h
    rw [hpackage, hname]
    refine .short hp ?_
    rintro rfl
    exact l.name_grammar.ne_empty hname
  · rw [parse_full hp] at h
    obtain ⟨rfl, rfl⟩ := check_eq_ok_iff.1 h
    exact .full hp

/-- A way to write a package and a name that are in order is read as their label. -/
lemma Written.exists_parse (h : Written text package name)
    (hpackage : package = "" ∨ IsPackageName package) (hname : IsTargetName name) :
    ∃ l, parse text = .ok l ∧ l.package = package ∧ l.name = name := by
  refine ⟨⟨package, name, packageFault?_eq_none_iff.2 hpackage, targetFault?_eq_none_iff.2 hname⟩,
    ?_, rfl, rfl⟩
  cases h with
  | full hcolon =>
    rw [parse_full hcolon]
    exact check_eq_ok_iff.2 ⟨rfl, rfl⟩
  | short hcolon =>
    have hlast : Segments.last package.toList ≠ [] :=
      fun hnil => hname.ne_empty (defaultName_eq_empty_iff_last.2 hnil)
    rw [parse_short hcolon, if_neg hlast]
    exact check_eq_ok_iff.2 ⟨rfl, rfl⟩

/-- A text without a colon is read exactly if it gives a package name. -/
lemma isOk_parse_short_iff (h : ':' ∉ package.toList) :
    (parse ("//" ++ package)).isOk = true ↔ IsPackageName package := by
  rw [Outcome.isOk_iff]
  constructor
  · rintro ⟨l, hl⟩
    obtain ⟨hpackage, hname⟩ := parse_eq_of_short h hl
    rw [← hpackage]
    refine l.package_grammar.resolve_left fun hempty => l.name_grammar.ne_empty ?_
    rw [hname, ← hpackage, hempty]
    rfl
  · intro hp
    have hne : package ≠ "" := hp.isTargetName.ne_empty
    obtain ⟨l, hl, -⟩ := (Written.short h hne).exists_parse (.inr hp) hp.defaultName
    exact ⟨l, hl⟩

/-- The reason to refuse a package with its name left out. That there is no name comes before any
fault of the package. -/
inductive ShortFault (package : String) : LabelFault → Prop
  /-- The package leaves no name. -/
  | emptyTarget (h : defaultName package = "") : ShortFault package .emptyTarget
  /-- The package leaves a name and breaks a rule itself. -/
  | package {fault : NameFault} (hname : defaultName package ≠ "")
      (h : packageFault? package = some (.package fault)) : ShortFault package (.package fault)

/-- What is wrong with a package is that it breaks a rule for packages. -/
lemma exists_of_packageFault? {fault : LabelFault} (h : packageFault? package = some fault) :
    ∃ rule, fault = .package rule := by
  unfold packageFault? at h
  split_ifs at h
  obtain ⟨rule, -, rfl⟩ := Option.map_eq_some_iff.1 h
  exact ⟨rule, rfl⟩

/-- What a text without a colon is refused for.

**Proof sketch.** If a name is left, it is in order wherever the package is, so only the package can
be at fault. -/
theorem parse_short_eq_error_iff (h : ':' ∉ package.toList) :
    parse ("//" ++ package) = .error e ↔
      e.text = "//" ++ package ∧ ShortFault package e.fault := by
  obtain ⟨given, fault⟩ := e
  rw [parse_short h]
  split_ifs with hempty
  · rw [← defaultName_eq_empty_iff_last] at hempty
    constructor
    · intro he
      obtain ⟨rfl, rfl⟩ := LabelError.mk.inj (Except.error.inj he)
      exact ⟨rfl, .emptyTarget hempty⟩
    · rintro ⟨rfl, hfault⟩
      cases hfault with
      | emptyTarget => rfl
      | package hname => exact absurd hempty hname
  · rw [← defaultName_eq_empty_iff_last] at hempty
    rw [check_eq_error_iff]
    refine and_congr_right fun _ => ⟨?_, fun hfault => ?_⟩
    · rintro (hp | ⟨hp, hn⟩)
      · obtain ⟨rule, rfl⟩ := exists_of_packageFault? hp
        exact .package hempty hp
      · rcases packageFault?_eq_none_iff.1 hp with rfl | hp
        · exact absurd rfl hempty
        · rw [targetFault?_eq_none_iff.2 hp.defaultName] at hn
          cases hn
    · cases hfault with
      | emptyTarget hname => exact absurd hname hempty
      | package _ hp => exact .inl hp

/-- The texts that are read as labels, and what comes of them. A text is read exactly if it is a way
to write a package and a name that are both in order, and as the label of these two. A refusal
carries the text. A text without a colon is read exactly if it gives a package name. If it is
refused, the name that is left out is the reason exactly if there is none, which is where the
package is empty or ends with a slash. Otherwise the package is the reason.

**Proof sketch.** A text begins without the two slashes, or has no colon behind them, or has a first
one. In the last two cases the parts are determined and only have to be checked. -/
theorem accepts_grammar (text : String) :
    (∀ package name, (∃ l, parse text = .ok l ∧ l.package = package ∧ l.name = name) ↔
      Written text package name ∧ (package = "" ∨ IsPackageName package) ∧ IsTargetName name) ∧
    (∀ e, parse text = .error e → e.text = text) ∧
    ∀ package, ':' ∉ package.toList → text = "//" ++ package →
      ((parse text).isOk = true ↔ IsPackageName package) ∧
      (∀ e, parse text = .error e ↔ e.text = text ∧ ShortFault package e.fault) ∧
      (defaultName package = "" ↔ package = "" ∨ package.toList.getLast? = some '/') := by
  refine ⟨fun package name => ⟨?_, ?_⟩, fun e => text_eq_of_parse_eq_error, ?_⟩
  · rintro ⟨l, hl, rfl, rfl⟩
    exact ⟨written_of_parse hl, l.package_grammar, l.name_grammar⟩
  · rintro ⟨hw, hpackage, hname⟩
    exact hw.exists_parse hpackage hname
  · rintro package hcolon rfl
    exact ⟨isOk_parse_short_iff hcolon, fun e => parse_short_eq_error_iff hcolon,
      defaultName_eq_empty_iff⟩

/-- A package with its name left out, the same text with a slash at its end, and one with an empty
segment inside. -/
theorem accepts_grammar_of_trailing_slash :
    IsPackageName "a/b.c" ∧ (∃ l, parse "//a/b.c" = .ok l ∧ l.package = "a/b.c" ∧ l.name = "b.c") ∧
      ¬ IsPackageName "a/b.c/" ∧ parse "//a/b.c/" = .error ⟨"//a/b.c/", .emptyTarget⟩ ∧
      parse "//a//b.c" = .error ⟨"//a//b.c", .package .emptySegment⟩ := by
  obtain ⟨hread, -, hshort⟩ := accepts_grammar "//a/b.c"
  obtain ⟨-, -, hslash⟩ := accepts_grammar "//a/b.c/"
  obtain ⟨-, -, hinside⟩ := accepts_grammar "//a//b.c"
  have hpackage : IsPackageName "a/b.c" :=
    (hshort "a/b.c" (by decide) (by decide)).1.1 (by decide +kernel)
  obtain ⟨hiff, hfault, hnone⟩ := hslash "a/b.c/" (by decide) (by decide)
  obtain ⟨-, hrule, hsome⟩ := hinside "a//b.c" (by decide) (by decide)
  refine ⟨hpackage, (hread _ _).2 ⟨?_, .inr hpackage, hpackage.defaultName⟩, ?_,
    (hfault _).2 ⟨rfl, .emptyTarget (hnone.2 (by decide))⟩,
    (hrule _).2 ⟨rfl, .package (hsome.not.2 (by decide)) (by decide)⟩⟩
  · exact @Written.short "a/b.c" (by decide) (by decide)
  · rw [← hiff]
    decide +kernel

/-- The name that is left out can be the reason to refuse a text: behind a slash there is none. That
is reported although the package is at fault too, or is the root package, which is in order. -/
theorem parse_refuses_missing_name :
    (parse "//a/b.c/" = .error ⟨"//a/b.c/", .emptyTarget⟩ ∧
      packageFault? "a/b.c/" = some (.package .trailingSlash)) ∧
    (parse "//" = .error ⟨"//", .emptyTarget⟩ ∧ packageFault? "" = none) ∧
    ¬ ∀ package e, ':' ∉ package.toList → parse ("//" ++ package) = .error e →
      targetFault? (defaultName package) ≠ some e.fault := by
  have hslash : parse ("//" ++ "a/b.c/") = .error ⟨"//a/b.c/", .emptyTarget⟩ :=
    (parse_short_eq_error_iff (by decide)).2 ⟨rfl, .emptyTarget (by decide)⟩
  have hroot : parse ("//" ++ "") = .error ⟨"//", .emptyTarget⟩ :=
    (parse_short_eq_error_iff (by decide)).2 ⟨rfl, .emptyTarget (by decide)⟩
  exact ⟨⟨hslash, by decide⟩, ⟨hroot, by decide⟩,
    fun hnever => hnever "a/b.c/" _ (by decide) hslash (by decide)⟩

end Label

end BuildPackage
