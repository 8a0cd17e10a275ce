import BuildPackage.Proofs.Builder.NameTable
import BuildPackage.Proofs.Package.Questions

set_option relaxedAutoImplicit false
set_option autoImplicit false

/-!
# The search for subpackages

A file target crosses a boundary if a directory that it lies in is a package of its own. The
directories of a target are the parts of its name before a slash, and they are asked for from the
shortest on, up to the first that is a package. So a search that is not interrupted finds exactly the
files that lie in some subpackage, each with its outermost one, and reports them in their order. A
search that is interrupted asks for nothing else, and what it has found at earlier files is reported
all the same.

## Main definitions

* `BuildPackage.Encloses` — a directory that a target of a package lies in.
* `BuildPackage.OutermostSubpackage` — the shortest such directory that is a package.
* `BuildPackage.lookedAt` — the directories of a target that are asked for.
* `BuildPackage.OutputFile.crossing?` — what a search finds at one file.
* `BuildPackage.Builder.Searches` — what becomes of a builder in a search for subpackages.

## Main results

* `BuildPackage.mem_directories_iff`, `BuildPackage.pairwise_length_directories` — the directories of
  a target, the shortest first.
* `BuildPackage.OutputFile.crossing?_eq_some_iff` — what is found is the outermost subpackage.
* `BuildPackage.run_patrol_of_settled`, `BuildPackage.run_patrol_of_interrupted` — a whole search.
* `BuildPackage.Builder.searches_buildChecked` — the search of every builder that can be reached.
-/

namespace BuildPackage

/-! ## Directories -/

/-- A directory that a target of a package lies in: the part of the target's name before one of its
slashes, below the package. -/
def Encloses (package name directory : String) : Prop :=
  ∃ part rest, name = part ++ "/" ++ rest ∧
    directory = if package = "" then part else package ++ "/" ++ part

/-- The directory of some segments, by the part of the name that they are. -/
lemma directoryBelow_eq (package : String) (segments : List (List Char)) :
    directoryBelow package segments =
      if package = "" then String.ofList (Segments.join segments)
      else package ++ "/" ++ String.ofList (Segments.join segments) := by
  simp only [directoryBelow, String.isEmpty_iff]

/-- Of two directories below a package, the one of the shorter part is shorter. -/
lemma length_directoryBelow_lt {package : String} {ss ts : List (List Char)}
    (h : (Segments.join ss).length < (Segments.join ts).length) :
    (directoryBelow package ss).length < (directoryBelow package ts).length := by
  rw [directoryBelow_eq, directoryBelow_eq]
  split_ifs
  · rwa [String.length_ofList, String.length_ofList]
  · simp only [String.length_append, String.length_ofList]
    omega

/-- A target has the directories that it lies in.

**Proof sketch.** A slash of the name stands behind some of its segments and before the others, and
there is at least one segment on either side. -/
theorem mem_directories_iff {package name d : String} :
    d ∈ directories package name ↔ Encloses package name d := by
  have hjoin := Segments.join_split name.toList
  simp only [directories, List.mem_map, List.mem_range, directoryBelow_eq]
  constructor
  · rintro ⟨n, hn, rfl⟩
    set segments := Segments.split name.toList
    refine ⟨String.ofList (Segments.join (segments.take (n + 1))),
      String.ofList (Segments.join (segments.drop (n + 1))), ?_, rfl⟩
    have htake : segments.take (n + 1) ≠ [] := by
      refine List.ne_nil_of_length_pos ?_
      rw [List.length_take]
      omega
    have hdrop : segments.drop (n + 1) ≠ [] := by
      refine List.ne_nil_of_length_pos ?_
      rw [List.length_drop]
      omega
    rw [← String.toList_inj, ← hjoin, ← List.take_append_drop (n + 1) segments,
      Segments.join_append htake hdrop]
    simp
  · rintro ⟨part, rest, hname, rfl⟩
    have hsplit : Segments.split name.toList =
        Segments.split part.toList ++ Segments.split rest.toList := by
      rw [← Segments.split_append, hname]
      simp
    have hpart := List.length_pos_of_ne_nil (Segments.split_ne_nil part.toList)
    have hrest := List.length_pos_of_ne_nil (Segments.split_ne_nil rest.toList)
    refine ⟨(Segments.split part.toList).length - 1, ?_, ?_⟩
    · rw [hsplit, List.length_append]
      omega
    · rw [hsplit, Nat.sub_add_cancel hpart, List.take_left, Segments.join_split,
        String.ofList_toList]

/-- The directories of a target come from the shortest on. -/
theorem pairwise_length_directories (package name : String) :
    (directories package name).Pairwise fun d d' => d.length < d'.length := by
  rw [directories, List.pairwise_map]
  refine List.pairwise_lt_range.imp_of_mem fun {m n} hm hn hmn => length_directoryBelow_lt ?_
  rw [List.mem_range] at hn
  set segments := Segments.split name.toList
  have htake : segments.take (m + 1) ≠ [] := by
    refine List.ne_nil_of_length_pos ?_
    rw [List.length_take]
    omega
  have hmore : (segments.drop (m + 1)).take (n - m) ≠ [] := by
    refine List.ne_nil_of_length_pos ?_
    rw [List.length_take, List.length_drop]
    omega
  have hsplit : segments.take (n + 1) =
      segments.take (m + 1) ++ (segments.drop (m + 1)).take (n - m) := by
    rw [← List.take_add]
    congr 1
    omega
  rw [hsplit, Segments.join_append htake hmore, List.length_append, List.length_cons]
  omega

example : directories "app" "a/b/c" = ["app/a", "app/a/b"] ∧ directories "" "a/b" = ["a"] := by
  decide

/-- A directory of a target is neither its package nor the target itself. -/
lemma Label.ne_of_encloses (l : Label) {package d : String} (h : Encloses package l.name d) :
    d ≠ package ∧ d ≠ if package = "" then l.name else package ++ "/" ++ l.name := by
  obtain ⟨part, rest, hname, rfl⟩ := h
  have hlength : part.length < l.name.length := by
    rw [hname, String.length_append, String.length_append]
    have hslash : "/".length = 1 := rfl
    omega
  have hpart : part ≠ "" := by
    rintro rfl
    -- A name with a slash at its front would have an empty segment.
    have hmem : [] ∈ Segments.split l.name.toList := by
      rw [hname]
      simp [Segments.split]
    exact (l.segments_name [] hmem).ne_nil rfl
  split_ifs with hempty
  · refine ⟨fun he => hpart (he.trans hempty), fun he => ?_⟩
    rw [he] at hlength
    exact lt_irrefl _ hlength
  · constructor
    · intro he
      have := congrArg String.length he
      have hslash : "/".length = 1 := rfl
      rw [String.length_append, String.length_append] at this
      omega
    · intro he
      have := congrArg String.length he
      simp only [String.length_append] at this
      omega

/-! ## Subpackages -/

variable {w : Workspace}

/-- The outermost subpackage that a target lies in: the shortest of its directories that is a
package. -/
structure OutermostSubpackage (w : Workspace) (package name d : String) : Prop where
  /-- The target lies in it. -/
  encloses : Encloses package name d
  /-- It is a package. -/
  isPackage : w.isPackage? d = some true
  /-- It is the shortest. -/
  shortest : ∀ d', Encloses package name d' → w.isPackage? d' = some true → d.length ≤ d'.length

/-- What a search finds at one file: the file with the first of its directories that is a package. -/
def OutputFile.crossing? (w : Workspace) (package : String) (f : OutputFile) :
    Option (Crossing × Location) :=
  ((directories package f.label.name).find? fun d => w.isPackage? d = some true).map fun d =>
    (⟨f.label, d⟩, f.location)

/-- The first directory of a target that is a package is the outermost subpackage. -/
lemma find?_directories_eq_some_iff {package name d : String} :
    (directories package name).find? (fun d => w.isPackage? d = some true) = some d ↔
      OutermostSubpackage w package name d := by
  have hpairwise := pairwise_length_directories package name
  have hfirst : ∀ {d}, (directories package name).find? (fun d => w.isPackage? d = some true) =
      some d → OutermostSubpackage w package name d := by
    intro d hd
    obtain ⟨hd, before, after, hds, hbefore⟩ := List.find?_eq_some_iff_append.1 hd
    refine ⟨mem_directories_iff.1 (by simp [hds]), by simpa using hd, fun d' hd' htrue => ?_⟩
    rw [← mem_directories_iff, hds, List.mem_append, List.mem_cons] at hd'
    rw [hds, List.pairwise_append, List.pairwise_cons] at hpairwise
    rcases hd' with hd' | rfl | hd'
    · simpa [htrue] using hbefore d' hd'
    · exact le_rfl
    · exact (hpairwise.2.1.1 d' hd').le
  refine ⟨hfirst, fun h => ?_⟩
  have hsome : ((directories package name).find? fun d => w.isPackage? d = some true).isSome := by
    rw [List.find?_isSome]
    exact ⟨d, mem_directories_iff.2 h.encloses, by simpa using h.isPackage⟩
  obtain ⟨d', hd'⟩ := Option.isSome_iff_exists.1 hsome
  have h' := hfirst hd'
  -- Both are shortest, and no two directories have the same length.
  have hlength : d.length = d'.length :=
    le_antisymm (h.shortest d' h'.encloses h'.isPackage) (h'.shortest d h.encloses h.isPackage)
  have hnodup : ((directories package name).map String.length).Nodup :=
    (List.pairwise_map.2 hpairwise).imp fun hlt => hlt.ne
  rw [hd', List.inj_on_of_nodup_map hnodup (mem_directories_iff.2 h.encloses)
    (mem_directories_iff.2 h'.encloses) hlength]

/-- What a search finds at a file is the outermost subpackage that the file lies in, if there is one.
-/
theorem OutputFile.crossing?_eq_some_iff {package : String} {f : OutputFile}
    {c : Crossing × Location} :
    f.crossing? w package = some c ↔ c.1.label = f.label ∧ c.2 = f.location ∧
      OutermostSubpackage w package f.label.name c.1.subpackage := by
  rw [crossing?, Option.map_eq_some_iff]
  simp only [find?_directories_eq_some_iff]
  constructor
  · rintro ⟨d, hd, rfl⟩
    exact ⟨rfl, rfl, hd⟩
  · rintro ⟨hlabel, hlocation, hd⟩
    refine ⟨c.1.subpackage, hd, ?_⟩
    rw [← hlabel, ← hlocation]

/-! ## One file -/

/-- The directories that are asked for: from the first on, as long as the answer is no, and then the
one at which it is not. -/
def lookedAt (w : Workspace) (ds : List String) : List String :=
  ds.takeWhile (fun d => w.isPackage? d = some false) ++
    (ds.find? fun d => w.isPackage? d ≠ some false).toList

lemma lookedAt_cons (d : String) (ds : List String) :
    lookedAt w (d :: ds) = d :: if w.isPackage? d = some false then lookedAt w ds else [] := by
  by_cases hd : w.isPackage? d = some false <;> simp [lookedAt, hd]

/-- All directories that are asked for get an answer. -/
def Settled (w : Workspace) (ds : List String) : Prop := ∀ d ∈ lookedAt w ds, w.isPackage? d ≠ none

instance (w : Workspace) (ds : List String) : Decidable (Settled w ds) :=
  inferInstanceAs (Decidable (∀ d ∈ lookedAt w ds, w.isPackage? d ≠ none))

/-- What comes of looking at the directories of one file.

**Proof sketch.** Induction on the directories: the search goes on after the answer no, and ends at
any other. -/
lemma run_passThrough (ds : List String) :
    (passThrough ds).run w.answer = ((lookedAt w ds).map .isPackage,
      if Settled w ds then
        (ds.find? fun d => w.isPackage? d = some true).elim .clear .crosses
      else .interrupted) := by
  induction ds with
  | nil => rfl
  | cons d ds ih =>
    have hcons : Settled w (d :: ds) ↔ w.isPackage? d ≠ none ∧
        (w.isPackage? d = some false → Settled w ds) := by
      by_cases hd : w.isPackage? d = some false <;> simp [Settled, lookedAt_cons, hd]
    rw [lookedAt_cons, if_congr hcons rfl rfl, passThrough, Dialogue.run_ask]
    rcases hd : w.isPackage? d with _ | _ | _
    · simp [Workspace.answer, hd]
    · simp [Workspace.answer, hd, ih]
    · simp [Workspace.answer, hd]

/-! ## All files -/

/-- The directories of a file that are asked for. -/
def OutputFile.lookedAt (w : Workspace) (package : String) (f : OutputFile) : List String :=
  BuildPackage.lookedAt w (directories package f.label.name)

/-- The search at a file comes to an end. -/
def OutputFile.Settled (w : Workspace) (package : String) (f : OutputFile) : Prop :=
  ∀ d ∈ f.lookedAt w package, w.isPackage? d ≠ none

instance (w : Workspace) (package : String) (f : OutputFile) : Decidable (f.Settled w package) :=
  inferInstanceAs (Decidable (BuildPackage.Settled w _))

variable {package : String} {f : OutputFile} {files : List OutputFile}

/-- Behind files at which the search comes to an end it goes on with the others. -/
lemma run_patrol_append (h : ∀ f ∈ files, f.Settled w package) (rest : List OutputFile) :
    (patrol package (files ++ rest)).run w.answer =
      ((files.flatMap (·.lookedAt w package)).map .isPackage ++
          ((patrol package rest).run w.answer).1,
        ⟨files.filterMap (·.crossing? w package) ++
            ((patrol package rest).run w.answer).2.crossings,
          ((patrol package rest).run w.answer).2.interrupted⟩) := by
  induction files with
  | nil => rfl
  | cons f files ih =>
    rw [List.forall_mem_cons] at h
    have hf : Settled w (directories package f.label.name) := h.1
    rw [List.cons_append, patrol, Dialogue.run_bind, run_passThrough, if_pos hf, List.flatMap_cons,
      List.map_append, List.append_assoc]
    cases hfind : (directories package f.label.name).find? fun d => w.isPackage? d = some true with
    | none =>
      have hnone : f.crossing? w package = none := by rw [OutputFile.crossing?, hfind]; rfl
      rw [List.filterMap_cons_none hnone, Option.elim_none, ih h.2]
      rfl
    | some d =>
      have hsome : f.crossing? w package = some (⟨f.label, d⟩, f.location) := by
        rw [OutputFile.crossing?, hfind]
        rfl
      rw [List.filterMap_cons_some hsome, Option.elim_some]
      simp only [Dialogue.run_bind, Dialogue.run_pure, ih h.2, List.append_nil]
      rfl

/-- A search that comes to an end at every file finds all that lie in subpackages. -/
theorem run_patrol_of_settled (h : ∀ f ∈ files, f.Settled w package) :
    (patrol package files).run w.answer =
      ((files.flatMap (·.lookedAt w package)).map .isPackage,
        ⟨files.filterMap (·.crossing? w package), false⟩) := by
  have happend := run_patrol_append h []
  rw [List.append_nil] at happend
  rw [happend]
  simp [patrol]

/-- A search that is interrupted at a file has found what it finds at the files before. -/
theorem run_patrol_of_interrupted (h : ∀ f ∈ files, f.Settled w package)
    (hf : ¬ f.Settled w package) (rest : List OutputFile) :
    (patrol package (files ++ f :: rest)).run w.answer =
      (((files ++ [f]).flatMap (·.lookedAt w package)).map .isPackage,
        ⟨files.filterMap (·.crossing? w package), true⟩) := by
  have hf' : ¬ Settled w (directories package f.label.name) := hf
  have hrest : (patrol package (f :: rest)).run w.answer =
      ((f.lookedAt w package).map .isPackage, ⟨[], true⟩) := by
    rw [patrol, Dialogue.run_bind, run_passThrough, if_neg hf', Dialogue.run_pure, List.append_nil]
    rfl
  rw [run_patrol_append h, hrest]
  simp

/-! ## Builders -/

/-- A search that does not come to an end at a file is interrupted at one of its directories, after
the answer no for those before. -/
lemma exists_lookedAt_of_not_settled {ds : List String} (h : ¬ Settled w ds) :
    ∃ before d, lookedAt w ds = before ++ [d] ∧ (∀ d' ∈ before, w.isPackage? d' = some false) ∧
      w.isPackage? d = none := by
  simp only [Settled, not_forall, not_not] at h
  obtain ⟨d, hmem, hd⟩ := h
  have hno : ∀ d' ∈ ds.takeWhile fun d => w.isPackage? d = some false,
      w.isPackage? d' = some false := fun d' hd' => by simpa using List.mem_takeWhile_imp hd'
  refine ⟨_, d, ?_, hno, hd⟩
  rw [lookedAt, List.mem_append, Option.mem_toList] at hmem
  rcases hmem with hmem | hmem
  · rw [hno d hmem] at hd
    cases hd
  · rw [lookedAt, hmem]
    rfl

/-- If the search does not come to an end at some file, there is a first such file. -/
lemma exists_first_not_settled (h : ¬ ∀ f ∈ files, f.Settled w package) :
    ∃ before f after, files = before ++ f :: after ∧ (∀ f ∈ before, f.Settled w package) ∧
      ¬ f.Settled w package := by
  have hsome : (files.find? fun f => ¬ f.Settled w package).isSome := by
    rw [List.find?_isSome]
    simpa using h
  obtain ⟨f, hf⟩ := Option.isSome_iff_exists.1 hsome
  obtain ⟨hf, before, after, hfiles, hbefore⟩ := List.find?_eq_some_iff_append.1 hf
  exact ⟨before, f, after, hfiles, by simpa using hbefore, by simpa using hf⟩

/-- A search is interrupted exactly if it does not come to an end at some file. -/
lemma interrupted_run_patrol_iff :
    Interrupted w ((patrol package files).run w.answer).1 ↔
      ¬ ∀ f ∈ files, f.Settled w package := by
  rw [← (searched_patrol package files).interrupted_iff]
  by_cases hall : ∀ f ∈ files, f.Settled w package
  · rw [run_patrol_of_settled hall]
    exact iff_of_false Bool.false_ne_true (not_not_intro hall)
  · obtain ⟨before, f, after, hsplit, hbefore, hf⟩ := exists_first_not_settled hall
    refine iff_of_true ?_ hall
    rw [hsplit, run_patrol_of_interrupted hbefore hf]

namespace Builder

/-- What becomes of a builder in a search for subpackages. -/
structure Searches (b : Builder) (w : Workspace) (log : EventLog) (asked : List Question)
    (log' : EventLog) (result : Except DecodeError CheckedPackage) : Prop where
  /-- The files are the input files and then the outputs of the rules, at the places of their
  declarations. -/
  files_eq : b.files = b.inputFiles.toList.map (fun f => ⟨f.label, f.location⟩) ++
    b.rules.toList.flatMap fun r => r.outputs.map fun label => ⟨label, r.location⟩
  /-- The directories of a file are those that it lies in. -/
  directories : ∀ f ∈ b.files, ∀ d,
    d ∈ BuildPackage.directories b.name f.label.name ↔ Encloses b.name f.label.name d
  /-- They come from the shortest on. -/
  shortest_first : ∀ f ∈ b.files,
    (BuildPackage.directories b.name f.label.name).Pairwise fun d d' => d.length < d'.length
  /-- Neither the package nor the file itself is among them. -/
  proper : ∀ f ∈ b.files, ∀ d ∈ BuildPackage.directories b.name f.label.name,
    d ≠ b.name ∧ d ≠ if b.name = "" then f.label.name else b.name ++ "/" ++ f.label.name
  /-- What is found at a file is the outermost subpackage that it lies in. -/
  crossing : ∀ f ∈ b.files, ∀ c, f.crossing? w b.name = some c ↔
    c.1.label = f.label ∧ c.2 = f.location ∧
      OutermostSubpackage w b.name f.label.name c.1.subpackage
  /-- A search that is not interrupted looks at every file. It succeeds with what it finds, reports
  all of that, and notes that there are errors if there is anything to report. -/
  completed : ¬ Interrupted w asked →
    asked = (b.files.flatMap (·.lookedAt w b.name)).map .isPackage ∧
      let found := b.files.filterMap (·.crossing? w b.name)
      log' = log.append (found.map fun c => c.1.event c.2) ∧
        result = .ok ⟨{ b.build with containsErrors := b.containsErrors || !found.isEmpty },
          found.map Prod.fst⟩
  /-- A search that is interrupted ends there. It fails, and reports what it has found at the files
  before. -/
  interrupted : Interrupted w asked → ∃ before f after no d,
    b.files = before ++ f :: after ∧ (∀ x ∈ before, x.Settled w b.name) ∧
      f.lookedAt w b.name = no ++ [d] ∧ (∀ d' ∈ no, w.isPackage? d' = some false) ∧
      w.isPackage? d = none ∧
      asked = (before.flatMap (·.lookedAt w b.name) ++ no ++ [d]).map .isPackage ∧
      log' = log.append
        ((before.filterMap (·.crossing? w b.name)).map fun c => c.1.event c.2) ∧
      result = .error .interrupted

/-- What comes of finishing a builder, by what its patrol has found. -/
lemma run_buildChecked (b : Builder) (w : Workspace) (log : EventLog) :
    (b.buildChecked log).run w.answer =
      let found := ((patrol b.name b.files).run w.answer).2
      (((patrol b.name b.files).run w.answer).1,
        log.append (found.crossings.map fun c => c.1.event c.2),
        if found.interrupted then .error .interrupted
        else .ok ⟨{ b.build with
            containsErrors := b.containsErrors || !found.crossings.isEmpty },
          found.crossings.map Prod.fst⟩) := by
  simp only [buildChecked, Dialogue.run_bind]
  split_ifs <;> simp

/-- Every builder that can be reached is searched for subpackages as it should be, in every workspace
and with every log of events.

**Proof sketch.** A search that is not interrupted comes to an end at every file
(`run_patrol_of_settled`). One that is interrupted has a first file at which it does not come to an
end (`run_patrol_of_interrupted`). That the files have the places of their declarations is what
agreement between the rules of a builder and its output files says. -/
theorem searches_buildChecked (name : String) (changes : List Change) (w : Workspace)
    (log : EventLog) :
    let b := afterChanges name changes
    let run := (b.buildChecked log).run w.answer
    b.Searches w log run.1 run.2.1 run.2.2 := by
  intro b run
  have hconsistent : b.Consistent :=
    (consistent_foldl_applyIfAccepted (consistent_empty name) changes).1
  have hrun : run = _ := run_buildChecked b w log
  have hinterrupted : Interrupted w run.1 ↔ ¬ ∀ f ∈ b.files, f.Settled w b.name := by
    rw [hrun, ← interrupted_run_patrol_iff]
  constructor
  case files_eq =>
    rw [files, hconsistent.outputFiles_eq]
    rfl
  case directories => exact fun f _ d => mem_directories_iff
  case shortest_first => exact fun f _ => pairwise_length_directories _ _
  case proper => exact fun f _ d hd => f.label.ne_of_encloses (mem_directories_iff.1 hd)
  case crossing => exact fun f _ c => OutputFile.crossing?_eq_some_iff
  case completed =>
    intro h
    have hall := not_not.1 (hinterrupted.not.1 h)
    rw [hrun, run_patrol_of_settled hall]
    exact ⟨rfl, rfl, rfl⟩
  case interrupted =>
    intro h
    obtain ⟨before, f, after, hsplit, hbefore, hf⟩ := exists_first_not_settled (hinterrupted.1 h)
    obtain ⟨no, d, hlooked, hno, hd⟩ := exists_lookedAt_of_not_settled hf
    have hasked : (before ++ [f]).flatMap (·.lookedAt w b.name) =
        before.flatMap (·.lookedAt w b.name) ++ no ++ [d] := by
      rw [List.flatMap_append, List.flatMap_singleton, OutputFile.lookedAt, hlooked,
        List.append_assoc]
    rw [hsplit, run_patrol_of_interrupted hbefore hf, hasked] at hrun
    rw [hrun]
    exact ⟨before, f, after, no, d, hsplit, hbefore, hlooked, hno, hd, rfl, rfl, rfl⟩

end Builder

end BuildPackage
