import BuildPackage.Proofs.Attribute.Reading

set_option relaxedAutoImplicit false
set_option autoImplicit false

/-!
# Filesets from messages

A fileset entry has two lists that may be missing, and the message marks this in two ways: the files
have a flag of their own, while the excluded names are missing if there are none. Files without the
flag are never looked at. The parts of an entry are read in an order of their own, and the first
part at fault in the first entry at fault is the one that is reported.

## Main definitions

* `BuildPackage.SymlinkBehavior.Encodes` — the numbers of what happens to symbolic links.
* `BuildPackage.Wire.FilesetEntry.Acceptable` — an entry whose parts are in order.
* `BuildPackage.Wire.FilesetEntry.Refused` — the first part of an entry that is at fault.
* `BuildPackage.FilesetEntry.Renders` — an entry that comes from an entry of a message.

## Main results

* `BuildPackage.FilesetEntry.ofWire_eq_ok_iff`, `BuildPackage.FilesetEntry.ofWire_eq_error_iff` —
  what comes of one entry.
* `BuildPackage.FilesetEntry.reads_entries` — what comes of a list of entries.
-/

namespace BuildPackage

open Outcome (FirstRefused)

/-! ## Symbolic links -/

/-- The numbers of what happens to symbolic links. Without a number they are copied. -/
inductive SymlinkBehavior.Encodes : Option Int32 → SymlinkBehavior → Prop
  /-- Nothing is said. -/
  | absent : Encodes none .copy
  /-- Links are copied. -/
  | copy : Encodes (some 1) .copy
  /-- Links are followed. -/
  | dereference : Encodes (some 2) .dereference

namespace SymlinkBehavior

variable {value : Option Int32}

lemma exists_encodes_iff :
    (∃ b, Encodes value b) ↔ value = none ∨ value = some 1 ∨ value = some 2 := by
  constructor
  · rintro ⟨_, _ | _ | _⟩
    · exact .inl rfl
    · exact .inr (.inl rfl)
    · exact .inr (.inr rfl)
  · rintro (rfl | rfl | rfl)
    · exact ⟨_, .absent⟩
    · exact ⟨_, .copy⟩
    · exact ⟨_, .dereference⟩

lemma ofWire_eq_ok_iff {b : SymlinkBehavior} : ofWire value = .ok b ↔ Encodes value b := by
  constructor
  · intro h
    cases value with
    | none =>
      obtain rfl := Except.ok.inj h
      exact .absent
    | some n =>
      simp only [ofWire] at h
      split_ifs at h with hcopy hdereference
      · obtain rfl := Except.ok.inj h
        rw [hcopy]
        exact .copy
      · obtain rfl := Except.ok.inj h
        rw [hdereference]
        exact .dereference
  · rintro (_ | _ | _) <;> rfl

/-- A number without a meaning is refused and named. -/
lemma ofWire_eq_error_iff {e : DecodeError} :
    ofWire value = .error e ↔ ∃ n, value = some n ∧ n ≠ 1 ∧ n ≠ 2 ∧ .symlinkBehavior n = e := by
  cases value with
  | none => simp [ofWire]
  | some n =>
    simp only [ofWire, Option.some.injEq, exists_eq_left']
    split_ifs with hcopy hdereference
    · simp [hcopy]
    · simp [hdereference]
    · simp [hcopy, hdereference]

end SymlinkBehavior

/-! ## Entries -/

namespace Wire.FilesetEntry

/-- The files of an entry are labels, or do not count. -/
def FilesAcceptable (e : Wire.FilesetEntry) : Prop :=
  e.filesPresent = some true → ∀ text ∈ e.files, (Label.parse text).isOk = true

/-- An entry whose parts are in order. -/
structure Acceptable (e : Wire.FilesetEntry) : Prop where
  /-- The files are in order. -/
  files : e.FilesAcceptable
  /-- The source is a label. -/
  source : (Label.parse e.source).isOk = true
  /-- The number of what happens to symbolic links has a meaning, if there is one. -/
  symlinkBehavior :
    e.symlinkBehavior = none ∨ e.symlinkBehavior = some 1 ∨ e.symlinkBehavior = some 2

/-- The first part of an entry that is at fault, with its error: the files come before the source,
and the source before the symbolic links. -/
inductive Refused (e : Wire.FilesetEntry) : DecodeError → Prop
  /-- A file is no label, and none before it. -/
  | files {error : LabelError} (present : e.filesPresent = some true)
      (bad : FirstRefused (fun text => (Label.parse text).isOk = true)
        (fun text error => Label.parse text = .error error) e.files error) :
      Refused e (.label error)
  /-- The source is no label. -/
  | source {error : LabelError} (files : e.FilesAcceptable)
      (bad : Label.parse e.source = .error error) : Refused e (.label error)
  /-- The number of what happens to symbolic links has no meaning. -/
  | symlinkBehavior {n : Int32} (files : e.FilesAcceptable)
      (source : (Label.parse e.source).isOk = true) (given : e.symlinkBehavior = some n)
      (ne_copy : n ≠ 1) (ne_dereference : n ≠ 2) : Refused e (.symlinkBehavior n)

/-- Only a number without a meaning is a defect of the message. -/
lemma Refused.isDefect_iff {e : Wire.FilesetEntry} {err : DecodeError} (h : e.Refused err) :
    err.kind.isDefect = true ↔ ∃ n, err = .symlinkBehavior n := by
  cases h with
  | files => exact iff_of_false Bool.false_ne_true fun ⟨n, hn⟩ => nomatch hn
  | source => exact iff_of_false Bool.false_ne_true fun ⟨n, hn⟩ => nomatch hn
  | symlinkBehavior => exact iff_of_true rfl ⟨_, rfl⟩

end Wire.FilesetEntry

namespace FilesetEntry

/-- An entry that comes from an entry of a message. -/
structure Renders (e : Wire.FilesetEntry) (x : FilesetEntry) : Prop where
  /-- The source is the label given. -/
  source : Label.parse e.source = .ok x.source
  /-- The files are the labels given, in their order, if they are said to be present. -/
  files : e.filesPresent = some true → ∃ labels,
    List.Forall₂ (fun text l => Label.parse text = .ok l) e.files labels ∧ x.files = some labels
  /-- Otherwise there are no files, whatever the message gives. -/
  noFiles : e.filesPresent ≠ some true → x.files = none
  /-- The names that are left out are those given. -/
  excludes : e.excluded ≠ [] → x.excludes = some e.excluded
  /-- Without such names there is no list of them. -/
  noExcludes : e.excluded = [] → x.excludes = none
  /-- Links are treated as the number says. -/
  symlinkBehavior : SymlinkBehavior.Encodes e.symlinkBehavior x.symlinkBehavior
  /-- The destination is the one given. -/
  destination : x.destination = e.destinationDirectory
  /-- What is removed from the front of names is what is given. -/
  stripPrefix : x.stripPrefix = e.stripPrefix

/-- The files of an entry, if they are said to be present. -/
def readFiles (e : Wire.FilesetEntry) : Except DecodeError (Option (List Label)) :=
  if e.filesPresent = some true then some <$> readLabels e.files else pure none

variable {e : Wire.FilesetEntry} {x : FilesetEntry} {err : DecodeError}

/-- An entry is read in three steps. -/
lemma ofWire_eq (e : Wire.FilesetEntry) :
    ofWire e = readFiles e >>= fun files => readLabel e.source >>= fun source =>
      SymlinkBehavior.ofWire e.symlinkBehavior >>= fun symlinkBehavior => pure {
        source, files, symlinkBehavior
        excludes := if e.excluded.isEmpty then none else some e.excluded
        destination := e.destinationDirectory
        stripPrefix := e.stripPrefix } := by
  by_cases hpresent : e.filesPresent = some true
  · simp only [ofWire, readFiles, if_pos hpresent]
  · simp only [ofWire, readFiles, if_neg hpresent]

lemma readFiles_eq_ok_iff {files : Option (List Label)} :
    readFiles e = .ok files ↔
      (e.filesPresent = some true → ∃ labels,
        List.Forall₂ (fun text l => Label.parse text = .ok l) e.files labels ∧
          files = some labels) ∧
      (e.filesPresent ≠ some true → files = none) := by
  unfold readFiles
  split_ifs with hpresent
  · simp only [Outcome.map_eq_ok_iff, readLabels_eq_ok_iff, hpresent, forall_const, ne_eq,
      not_true_eq_false, false_imp_iff, and_true, eq_comm (a := files)]
  · simp only [Outcome.pure_eq_ok_iff, hpresent, false_imp_iff, true_and, ne_eq, not_false_eq_true,
      forall_const, eq_comm (a := files)]

lemma isOk_readFiles_iff : (readFiles e).isOk = true ↔ e.FilesAcceptable := by
  unfold readFiles Wire.FilesetEntry.FilesAcceptable
  split_ifs with hpresent
  · rw [Outcome.isOk_map, isOk_readLabels_iff, forall_prop_of_true hpresent]
  · exact iff_of_true rfl fun h => absurd h hpresent

lemma readFiles_eq_error_iff :
    readFiles e = .error err ↔ e.filesPresent = some true ∧ ∃ error,
      FirstRefused (fun text => (Label.parse text).isOk = true)
        (fun text error => Label.parse text = .error error) e.files error ∧ .label error = err := by
  unfold readFiles
  split_ifs with hpresent
  · rw [Outcome.map_eq_error_iff, readLabels_eq_error_iff, and_iff_right hpresent]
  · exact iff_of_false (fun h => nomatch h) fun h => hpresent h.1

/-- An entry is read as the entries that render it. -/
theorem ofWire_eq_ok_iff : ofWire e = .ok x ↔ x.Renders e := by
  have hexcludes : ∀ excludes, (if e.excluded.isEmpty then none else some e.excluded) = excludes ↔
      (e.excluded ≠ [] → excludes = some e.excluded) ∧ (e.excluded = [] → excludes = none) := by
    intro excludes
    cases e.excluded <;> simp [eq_comm]
  simp only [ofWire_eq, Outcome.bind_eq_ok_iff, Outcome.pure_eq_ok_iff, readLabel_eq_ok_iff,
    readFiles_eq_ok_iff, SymlinkBehavior.ofWire_eq_ok_iff]
  constructor
  · rintro ⟨files, ⟨hpresent, habsent⟩, source, hsource, b, hb, rfl⟩
    obtain ⟨hsome, hnone⟩ := (hexcludes _).1 rfl
    exact ⟨hsource, hpresent, habsent, hsome, hnone, hb, rfl, rfl⟩
  · intro h
    refine ⟨x.files, ⟨h.files, h.noFiles⟩, x.source, h.source, x.symlinkBehavior,
      h.symlinkBehavior, ?_⟩
    rw [(hexcludes x.excludes).2 ⟨h.excludes, h.noExcludes⟩, ← h.destination, ← h.stripPrefix]

/-- An entry is read exactly if its parts are in order. -/
theorem isOk_ofWire_iff : (ofWire e).isOk = true ↔ e.Acceptable := by
  have hsymlink : (SymlinkBehavior.ofWire e.symlinkBehavior).isOk = true ↔
      e.symlinkBehavior = none ∨ e.symlinkBehavior = some 1 ∨ e.symlinkBehavior = some 2 := by
    simp only [Outcome.isOk_iff, SymlinkBehavior.ofWire_eq_ok_iff,
      SymlinkBehavior.exists_encodes_iff]
  have hread : (ofWire e).isOk = true ↔ (readFiles e).isOk = true ∧
      (readLabel e.source).isOk = true ∧
        (SymlinkBehavior.ofWire e.symlinkBehavior).isOk = true := by
    rw [ofWire_eq]
    exact Outcome.isOk_bind_iff fun files => Outcome.isOk_bind_iff fun source => by
      rw [Outcome.isOk_bind_pure]
  rw [hread, isOk_readFiles_iff, readLabel, Outcome.isOk_mapError, hsymlink]
  exact ⟨fun ⟨hf, hs, hb⟩ => ⟨hf, hs, hb⟩, fun h => ⟨h.files, h.source, h.symlinkBehavior⟩⟩

/-- An entry is refused for its first part at fault.

**Proof sketch.** Each of the three steps is taken after those before it have succeeded, which is
what the refusal of a later part says about the earlier ones. -/
theorem ofWire_eq_error_iff : ofWire e = .error err ↔ e.Refused err := by
  have hfiles : (∃ files, readFiles e = .ok files) ↔ e.FilesAcceptable := by
    rw [← isOk_readFiles_iff, Outcome.isOk_iff]
  have hsource : (∃ source, readLabel e.source = .ok source) ↔
      (Label.parse e.source).isOk = true := by
    simp only [Outcome.isOk_iff, readLabel_eq_ok_iff]
  have hpure : ∀ x : FilesetEntry, (pure x : Except DecodeError FilesetEntry) ≠ .error err := by
    intro x h
    cases h
  simp only [ofWire_eq, Outcome.bind_eq_error_iff, hpure, and_false, exists_false, or_false,
    exists_and_right, hfiles, hsource, readFiles_eq_error_iff, readLabel_eq_error_iff,
    SymlinkBehavior.ofWire_eq_error_iff]
  constructor
  · rintro (⟨hpresent, error, hbad, rfl⟩ | ⟨hf, ⟨error, hbad, rfl⟩ | ⟨hs, n, hn, h1, h2, rfl⟩⟩)
    · exact .files hpresent hbad
    · exact .source hf hbad
    · exact .symlinkBehavior hf hs hn h1 h2
  · rintro (⟨hpresent, hbad⟩ | ⟨hf, hbad⟩ | ⟨hf, hs, hn, h1, h2⟩)
    · exact .inl ⟨hpresent, _, hbad, rfl⟩
    · exact .inr ⟨hf, .inl ⟨_, hbad, rfl⟩⟩
    · exact .inr ⟨hf, .inr ⟨hs, _, hn, h1, h2, rfl⟩⟩

/-- What comes of the fileset entries of a message. They are read exactly if each of them is in
order, and then there is one entry for each of them, in order, that renders it. If not, the error is
that of the first entry that is not in order, and of its first part at fault. It is a defect of the
message exactly if it is about symbolic links. -/
theorem reads_entries (es : List Wire.FilesetEntry) :
    ((es.mapM ofWire).isOk = true ↔ ∀ e ∈ es, e.Acceptable) ∧
    (∀ xs, es.mapM ofWire = .ok xs ↔ List.Forall₂ (fun e x => x.Renders e) es xs) ∧
    ∀ err, (es.mapM ofWire = .error err ↔
        FirstRefused Wire.FilesetEntry.Acceptable Wire.FilesetEntry.Refused es err) ∧
      (es.mapM ofWire = .error err →
        (err.kind.isDefect = true ↔ ∃ n, err = .symlinkBehavior n)) := by
  have herror : ∀ err, es.mapM ofWire = .error err ↔
      FirstRefused Wire.FilesetEntry.Acceptable Wire.FilesetEntry.Refused es err := by
    intro err
    simp only [Outcome.mapM_eq_error_iff, isOk_ofWire_iff, ofWire_eq_error_iff]
  refine ⟨?_, fun xs => ?_, fun err => ⟨herror err, fun h => ?_⟩⟩
  · simp only [Outcome.isOk_mapM_iff, isOk_ofWire_iff]
  · simp only [Outcome.mapM_eq_ok_iff, ofWire_eq_ok_iff]
  · obtain ⟨before, e, after, -, -, hrefused⟩ := (herror err).1 h
    exact hrefused.isDefect_iff

/-- Entries without files and with an empty list of files, before and behind entries of which one is
at fault in all of its parts and another one in its symbolic links only. -/
theorem reads_entries_of_faults :
    let absent : Wire.FilesetEntry := { source := "//app:srcs", files := ["no label"] }
    let present : Wire.FilesetEntry :=
      { source := "//app:srcs", filesPresent := some true, symlinkBehavior := some 2 }
    let odd : Wire.FilesetEntry := { present with symlinkBehavior := some 9 }
    let faulty : Wire.FilesetEntry := { odd with source := "srcs", files := ["//app:a", "b"] }
    (∃ xs, [absent, present].mapM ofWire = .ok xs ∧ xs.map FilesetEntry.files = [none, some []] ∧
      List.Forall₂ (fun e x => x.Renders e) [absent, present] xs) ∧
    FirstRefused Wire.FilesetEntry.Acceptable Wire.FilesetEntry.Refused [absent, faulty, odd]
      (.label ⟨"b", .unanchored⟩) ∧
    [absent, odd, faulty].mapM ofWire = .error (.symlinkBehavior 9) ∧
    (DecodeError.symlinkBehavior 9).kind.isDefect = true := by
  intro absent present odd faulty
  have hfiles : List.map FilesetEntry.files <$> [absent, present].mapM ofWire =
      .ok [none, some []] := by decide +kernel
  obtain ⟨xs, hxs, hfiles⟩ := Outcome.map_eq_ok_iff.1 hfiles
  have hodd : [absent, odd, faulty].mapM ofWire = .error (.symlinkBehavior 9) := by decide +kernel
  have hdefect := ((reads_entries [absent, odd, faulty]).2.2 (.symlinkBehavior 9)).2 hodd
  exact ⟨⟨xs, hxs, hfiles, ((reads_entries [absent, present]).2.1 xs).1 hxs⟩,
    ((reads_entries [absent, faulty, odd]).2.2 _).1.1 (by decide +kernel), hodd,
    hdefect.2 ⟨9, rfl⟩⟩

end FilesetEntry

end BuildPackage
