import BuildPackage.Proofs.Inspect.Confinement
import BuildPackage.Proofs.Package.Subpackages

set_option relaxedAutoImplicit false
set_option autoImplicit false

/-!
# The two modes of the inspector

Below a workspace root every question about a directory has an answer, so the search for subpackages
is never interrupted. Both modes of the inspector then fail alike, and where they succeed, the one
that searches adds what it finds to the summary of the other one: a list of crossings, an event for
each of them, and a note that there are errors if there is one. A file target crosses a boundary if
its name passes through a directory with a build file, and the shortest such directory counts.

## Main definitions

* `BuildPackage.buildFileBelow` — the build file of a directory below a package.
* `BuildPackage.EntersAt` — the first directory with a build file that a name passes through.
* `BuildPackage.Package.fileTargets` — the file targets of a package with their places.
* `BuildPackage.Package.FindsCrossings` — what a search below a root finds in a package.
* `BuildPackage.AddsCrossings` — a summary to which crossings are added.

## Main results

* `BuildPackage.outermostSubpackage_below_iff` — subpackages below a root by their build files.
* `BuildPackage.addsCrossings_summary` — the summary of a checked package.
* `BuildPackage.inspect_modes_agree` — both modes of the inspector.
-/

namespace BuildPackage

variable {root : Path} {answer : (p : Probe) → p.Answer}

/-! ## Build files of directories -/

/-- The build file of a directory below a package, which is the root itself if the package has the
empty name. -/
def buildFileBelow (root : Path) (package part : String) : Path :=
  if package = "" then (root.join part).join "BUILD"
  else ((root.join package).join part).join "BUILD"

/-- The name of a label has a directory in front of each of its slashes. The build file of such a
directory is found below the package. -/
lemma Label.buildFileIn_directory (l : Label) {part rest : String}
    (h : l.name = part ++ "/" ++ rest) :
    buildFileIn root (if l.package = "" then part else l.package ++ "/" ++ part) =
      buildFileBelow root l.package part := by
  unfold buildFileIn buildFileBelow
  split_ifs with hempty
  · rfl
  · have hlast : l.package.toList.getLast? ≠ some '/' := by
      intro hlast
      obtain ⟨cs, hcs⟩ := List.getLast?_eq_some_iff.1 hlast
      refine (l.segments_package hempty [] ?_).ne_nil rfl
      rw [hcs, Segments.split_append]
      exact List.mem_append_right _ List.mem_cons_self
    have hpart : part.toList.head? ≠ some '/' := by
      intro hhead
      obtain ⟨cs, hcs⟩ := List.head?_eq_some_iff.1 hhead
      refine (l.segments_name [] ?_).ne_nil rfl
      rw [h, String.toList_append, String.toList_append, hcs, List.cons_append, List.cons_append,
        Segments.split, if_pos rfl]
      exact List.mem_cons_self
    rw [Path.join_join hempty hlast hpart]

/-! ## Subpackages -/

/-- The first directory that a name passes through below a package and that has a build file. -/
structure EntersAt (answer : (p : Probe) → p.Answer) (root : Path) (package name part : String) :
    Prop where
  /-- The directory is the part of the name in front of a slash. -/
  passes : ∃ rest, name = part ++ "/" ++ rest
  /-- It has a build file. -/
  found : answer (.isFile (buildFileBelow root package part)) = true
  /-- It is the shortest. -/
  shortest : ∀ part' rest, name = part' ++ "/" ++ rest →
    answer (.isFile (buildFileBelow root package part')) = true → part.length ≤ part'.length

/-- The outermost subpackage of a target is the first directory with a build file that the name of
the target passes through. -/
theorem outermostSubpackage_below_iff (l : Label) {d : String} :
    OutermostSubpackage (.below root answer) l.package l.name d ↔
      ∃ part, EntersAt answer root l.package l.name part ∧
        d = if l.package = "" then part else l.package ++ "/" ++ part := by
  have hpackage : ∀ part rest, l.name = part ++ "/" ++ rest →
      ((Workspace.below root answer).isPackage?
        (if l.package = "" then part else l.package ++ "/" ++ part) = some true ↔
        answer (.isFile (buildFileBelow root l.package part)) = true) := by
    intro part rest hname
    rw [← l.buildFileIn_directory hname]
    exact Option.some_inj
  have hlength : ∀ part part' : String,
      ((if l.package = "" then part else l.package ++ "/" ++ part).length ≤
        (if l.package = "" then part' else l.package ++ "/" ++ part').length ↔
        part.length ≤ part'.length) := by
    intro part part'
    split_ifs
    · rfl
    · simp only [String.length_append]
      omega
  constructor
  · rintro ⟨⟨part, rest, hname, rfl⟩, hfound, hshortest⟩
    refine ⟨part, ⟨⟨rest, hname⟩, (hpackage part rest hname).1 hfound, ?_⟩, rfl⟩
    intro part' rest' hname' hfound'
    exact (hlength part part').1
      (hshortest _ ⟨part', rest', hname', rfl⟩ ((hpackage part' rest' hname').2 hfound'))
  · rintro ⟨part, ⟨⟨rest, hname⟩, hfound, hshortest⟩, rfl⟩
    refine ⟨⟨part, rest, hname, rfl⟩, (hpackage part rest hname).2 hfound, ?_⟩
    rintro _ ⟨part', rest', hname', rfl⟩ hfound'
    exact (hlength part part').2
      (hshortest part' rest' hname' ((hpackage part' rest' hname').1 hfound'))

/-- A search below a root comes to an end at every file. -/
lemma OutputFile.settled_below (package : String) (f : OutputFile) :
    f.Settled (.below root answer) package := fun _ _ => Option.some_ne_none _

/-! ## Packages -/

/-- The file targets of a package, each at the place of its declaration. -/
def Package.fileTargets (p : Package) : List OutputFile :=
  p.inputFiles.map (fun f => ⟨f.label, f.location⟩) ++
    p.rules.flatMap fun r => r.outputs.map fun label => ⟨label, r.location⟩

/-- What a search below a root finds in a package. -/
structure Package.FindsCrossings (p : Package) (answer : (p : Probe) → p.Answer) (root : Path)
    (found : List (Crossing × Location)) : Prop where
  /-- The file targets are the input files and then the output files, in their order. -/
  labels_fileTargets : p.fileTargets.map OutputFile.label =
    p.inputFiles.map InputFile.label ++ p.outputFiles
  /-- The file targets are searched in their order. -/
  found_eq : found = p.fileTargets.filterMap (·.crossing? (.below root answer) p.name)
  /-- Each one is found exactly if its name passes through a directory with a build file. -/
  crossing_iff : ∀ f ∈ p.fileTargets, ∀ c, f.crossing? (.below root answer) p.name = some c ↔
    c.1.label = f.label ∧ c.2 = f.location ∧ ∃ part,
      EntersAt answer root p.name f.label.name part ∧
        c.1.subpackage = if p.name = "" then part else p.name ++ "/" ++ part

variable {registry : Registry} {m : Wire.Package} {b : Builder} {log : EventLog} {w : Workspace}

lemma fileTargets_of_outcome_assemble (h : (assemble registry m).outcome w = .ok (b, log)) :
    b.build.fileTargets = b.files := by
  obtain ⟨s, -, hb, -⟩ := outcome_assemble_eq_ok_iff.1 h
  obtain ⟨files, groups, rules, -, -, -, -, rfl⟩ := Builder.ofWire_eq_ok_iff.1 hb
  rfl

/-- The files of a builder are searched below a root. -/
lemma findsCrossings_of_outcome_assemble
    (h : (assemble registry m).outcome (.below root answer) = .ok (b, log)) :
    b.build.FindsCrossings answer root
      (b.files.filterMap (·.crossing? (.below root answer) b.name)) := by
  have hfiles := fileTargets_of_outcome_assemble h
  constructor
  case labels_fileTargets =>
    rw [hfiles]
    simp [Builder.files, Builder.build]
  case found_eq =>
    rw [hfiles]
    rfl
  case crossing_iff =>
    intro f hf c
    rw [hfiles] at hf
    have hpackage : f.label.package = b.build.name := owned_of_outcome_assemble h f hf
    rw [OutputFile.crossing?_eq_some_iff, ← hpackage, outermostSubpackage_below_iff]

/-! ## Summaries -/

/-- A summary to which crossings are added. -/
structure AddsCrossings (found : List (Crossing × Location)) (plain legacy : List (String × Json)) :
    Prop where
  /-- All other members stay as they are. -/
  others : ∀ key, key ≠ "events" → key ≠ "contains_errors" → key ≠ "subpackage_crossings" →
    (Json.object legacy).get? key = (Json.object plain).get? key
  /-- There is one more event for each crossing, in their order, behind the others. -/
  events : ∃ events, (Json.object plain).get? "events" = some (.texts events) ∧
    (Json.object legacy).get? "events" =
      some (.texts (events ++ found.map fun c => (c.1.event c.2).text))
  /-- A crossing is an error. -/
  contains_errors : ∃ errors, (Json.object plain).get? "contains_errors" = some (.bool errors) ∧
    (Json.object legacy).get? "contains_errors" = some (.bool (errors || !found.isEmpty))
  /-- The crossings are listed. -/
  subpackage_crossings : (Json.object plain).get? "subpackage_crossings" = none ∧
    (Json.object legacy).get? "subpackage_crossings" =
      some (.list Crossing.toJson (found.map Prod.fst))

/-- The texts of events. -/
lemma list_text_eq_texts (events : List Event) :
    Json.list (fun e => .text e.text) events = .texts (events.map Event.text) := by
  rw [Json.texts, Json.list, Json.list, List.map_map]
  rfl

/-- The summary of a checked package adds what is found to that of the package. -/
theorem addsCrossings_summary (p : Package) (log : EventLog)
    (found : List (Crossing × Location)) :
    AddsCrossings found (p.summary log)
      (CheckedPackage.summary
        ⟨{ p with containsErrors := p.containsErrors || !found.isEmpty }, found.map Prod.fst⟩
        (log.append (found.map fun c => c.1.event c.2))) := by
  constructor
  case others =>
    intro key hevents herrors hcrossings
    simp [Json.get?, CheckedPackage.summary, Package.summary, hevents.symm, herrors.symm,
      hcrossings.symm, List.find?_cons]
  case events =>
    refine ⟨log.toList.map Event.text, congrArg some (list_text_eq_texts _), ?_⟩
    have happend : log.toList.map Event.text ++ found.map (fun c => (c.1.event c.2).text) =
        (log.append (found.map fun c => c.1.event c.2)).toList.map Event.text := by
      simp [EventLog.append]
    rw [happend]
    exact congrArg some (list_text_eq_texts _)
  case contains_errors => exact ⟨p.containsErrors, rfl, rfl⟩
  case subpackage_crossings => exact ⟨rfl, rfl⟩

/-! ## Both modes -/

/-- What both ways of decoding do below a root with an assembled builder. -/
lemma inWorkspace_below_of_assemble {asked : List Question}
    (h : (assemble registry m).inWorkspace (.below root answer) = (asked, .ok (b, log))) :
    let found := b.files.filterMap (·.crossing? (.below root answer) b.name)
    (Package.ofWire registry m).inWorkspace (.below root answer) = (asked, .ok ⟨b.build, log⟩) ∧
    ∃ directories : List String,
      (CheckedPackage.ofWire registry m).inWorkspace (.below root answer) =
        (asked ++ directories.map .isPackage,
          .ok ⟨⟨{ b.build with containsErrors := b.containsErrors || !found.isEmpty },
            found.map Prod.fst⟩, log.append (found.map fun c => c.1.event c.2)⟩) := by
  intro found
  have hsettled : ∀ f ∈ b.files, f.Settled (.below root answer) b.name :=
    fun f _ => f.settled_below b.name
  constructor
  · rw [Package.ofWire_eq, Inquiry.inWorkspace_bind, h]
    simp only [Inquiry.inWorkspace_pure, List.append_nil]
  · refine ⟨b.files.flatMap (·.lookedAt (.below root answer) b.name), ?_⟩
    rw [CheckedPackage.ofWire_eq, Inquiry.inWorkspace_bind, h]
    simp only [b.inWorkspace_finishChecked, run_patrol_of_settled hsettled]
    rfl

/-- Where no builder is assembled, both ways of decoding fail alike. -/
lemma inWorkspace_of_assemble_error {asked : List Question} {e : DecodeError}
    (h : (assemble registry m).inWorkspace w = (asked, .error e)) :
    (Package.ofWire registry m).inWorkspace w = (asked, .error e) ∧
      (CheckedPackage.ofWire registry m).inWorkspace w = (asked, .error e) := by
  rw [Package.ofWire_eq, CheckedPackage.ofWire_eq, Inquiry.inWorkspace_bind,
    Inquiry.inWorkspace_bind, h]
  exact ⟨rfl, rfl⟩

variable {args : Arguments}

lemma held_report_plain : (report { args with legacy := false } registry m).held answer =
    (((Package.ofWire registry m).inWorkspace (.below ⟨args.root⟩ answer)).1.map
        (·.probe ⟨args.root⟩),
      (fun d => d.package.summary d.events) <$>
        ((Package.ofWire registry m).inWorkspace (.below ⟨args.root⟩ answer)).2.mapError .decode)
    := by
  rw [report, if_neg Bool.false_ne_true, Inspection.held_map, held_belowRoot]

lemma held_report_legacy : (report { args with legacy := true } registry m).held answer =
    (((CheckedPackage.ofWire registry m).inWorkspace (.below ⟨args.root⟩ answer)).1.map
        (·.probe ⟨args.root⟩),
      (fun d => d.package.summary d.events) <$>
        ((CheckedPackage.ofWire registry m).inWorkspace
          (.below ⟨args.root⟩ answer)).2.mapError .decode) := by
  rw [report, if_pos rfl, Inspection.held_map, held_belowRoot]

/-- What the inspector does in its two modes. -/
structure ModesAgree (args : Arguments) (answer : (p : Probe) → p.Answer)
    (plain legacy : List Probe × Except InspectError (List (String × Json))) : Prop where
  /-- The same files are read and the same build files are looked for. The mode with a search only
  looks for more build files, and for none if there is no summary. -/
  asked : ∃ paths : List Path, legacy.1 = plain.1 ++ paths.map .isFile ∧
    (paths = [] ∨ plain.2.isOk = true)
  /-- Both fail with the same error, or both succeed and the crossings in the package that is
  decoded are added to its summary. -/
  results : Outcome.Agree (fun members members' => ∃ registry m d found,
    ((opened args).held answer).2 = .ok (registry, m) ∧
    (Package.ofWire registry m).outcome (.below ⟨args.root⟩ answer) = .ok d ∧
    members = d.package.summary d.events ∧
    d.package.FindsCrossings answer ⟨args.root⟩ found ∧
    AddsCrossings found members members') plain.2 legacy.2

/-- The two modes of the inspector agree, whatever the arguments and the files are.

**Proof sketch.** What is read does not depend on the mode. If the message is not opened or no
builder is assembled, both modes end there. Otherwise the search comes to an end at every file
(`run_patrol_of_settled`) and is the only thing that is added. -/
theorem inspect_modes_agree (args : Arguments) (answer : (p : Probe) → p.Answer) :
    ModesAgree args answer ((inspect { args with legacy := false }).held answer)
      ((inspect { args with legacy := true }).held answer) := by
  have hopened : ∀ legacy, opened { args with legacy } = opened args := fun _ => rfl
  cases h : ((opened args).held answer).2 with
  | error e =>
    rw [held_inspect_of_not_opened (by rw [hopened, h]),
      held_inspect_of_not_opened (by rw [hopened, h])]
    exact ⟨⟨[], by rw [hopened false, hopened true, List.map_nil, List.append_nil], .inl rfl⟩,
      .error e⟩
  | ok o =>
    obtain ⟨registry, m⟩ := o
    rw [held_inspect_of_opened (by rw [hopened, h]), held_inspect_of_opened (by rw [hopened, h]),
      hopened false, hopened true, held_report_plain, held_report_legacy]
    rcases hassemble : (assemble registry m).inWorkspace (.below ⟨args.root⟩ answer) with
      ⟨asked, e | ⟨b, log⟩⟩
    · obtain ⟨hplain, hlegacy⟩ := inWorkspace_of_assemble_error hassemble
      rw [hplain, hlegacy]
      exact ⟨⟨[], by rw [List.map_nil, List.append_nil], .inl rfl⟩, .error _⟩
    · obtain ⟨hplain, directories, hlegacy⟩ := inWorkspace_below_of_assemble hassemble
      rw [hplain, hlegacy]
      refine ⟨⟨directories.map (buildFileIn ⟨args.root⟩), ?_, .inr rfl⟩, .ok ?_⟩
      · simp only [List.map_append, List.map_map, List.append_assoc]
        rfl
      · have hassembled :
            (assemble registry m).outcome (.below ⟨args.root⟩ answer) = .ok (b, log) :=
          congrArg Prod.snd hassemble
        exact ⟨registry, m, _, _, h, congrArg Prod.snd hplain, rfl,
          findsCrossings_of_outcome_assemble hassembled, addsCrossings_summary b.build log _⟩

/-- A target below two subpackages crosses the boundary of the outer one. -/
example :
    let m : Wire.Package :=
      { name := "app", sourceFiles := [{ name := "//app:sub/deep/x.c" }, { name := "//app:y.c" }] }
    let t := [("r.json", "{}".toUTF8), ("m.pb", m.encode), ("ws/app/BUILD", .empty),
        ("ws/app/sub/BUILD", .empty), ("ws/app/sub/deep/BUILD", .empty)].foldl
      (fun (t : FileTree) e => t.insert e.1 (some e.2)) .empty
    let crossings := fun legacy =>
      ((inspect ⟨"m.pb", "r.json", "ws", legacy⟩).held t.answer).2.toOption.map fun members =>
        ((Json.object members).get? "subpackage_crossings").map Json.pretty
    crossings false = some none ∧
      crossings true = some (some ("[\n  \x7b\n    \"label\": \"//app:sub/deep/x.c\",\n" ++
        "    \"subpackage\": \"app/sub\"\n  \x7d\n]")) := by
  decide +kernel

end BuildPackage
