import BuildPackage.Inspect.Run
import BuildPackage.Proofs.Package.Questions

set_option relaxedAutoImplicit false
set_option autoImplicit false

/-!
# The inspector and its workspace root

The inspector first reads the registry and the message by the names it was given. From then on it
only looks for build files, one for each question about the workspace. Those that it looks for on
behalf of a label are below the root. The name that the message gives itself is not looked at before
it is joined to the root: an absolute one takes the place of the root, and one with a segment `..`
leads out of it. The build file that is found there is the one of the summary.

## Main definitions

* `BuildPackage.Workspace.below` — the workspace below a root.
* `BuildPackage.Inspection.held` — what the inspector asks and what comes of it.
* `BuildPackage.opened` — the registry and the message that are read.

## Main results

* `BuildPackage.held_belowRoot` — an inquiry that is held below a root.
* `BuildPackage.isBelow_buildFileIn_iff` — the names with a build file below the root.
* `BuildPackage.inspect_isBelow_iff` — where the inspector looks for build files.
-/

namespace BuildPackage

variable {root : Path} {answer : (p : Probe) → p.Answer}

/-! ## Build files below a root -/

/-- A relative name has its build file below the root exactly if it never goes up. -/
theorem isBelow_buildFileIn_iff {name : String} (h : name.toList.head? ≠ some '/') :
    (buildFileIn root name).IsBelow root ↔ ['.', '.'] ∉ Segments.split name.toList := by
  have hbuild : "BUILD".toList.head? ≠ some '/' := by decide
  obtain ⟨rest, hrest, hroot, hup⟩ := Path.exists_components_join root h
  obtain ⟨last, hlast, hlroot, hlup⟩ := Path.exists_components_join (root.join name) hbuild
  have hnotup : Path.Component.up ∉ last := by
    rw [hlup]
    decide
  have hcomponents : (buildFileIn root name).components = root.components ++ (rest ++ last) := by
    rw [buildFileIn, hlast, hrest, List.append_assoc]
  rw [Path.isBelow_iff_of_components hcomponents, List.mem_append, List.mem_append, hup]
  simp [hroot, hlroot, hnotup]

/-- An absolute name has its build file in the same place whatever the root is. -/
lemma buildFileIn_of_absolute {name : String} (h : name.toList.head? = some '/') :
    buildFileIn root name = (⟨name⟩ : Path).join "BUILD" := by
  rw [buildFileIn, Path.join_of_absolute h]

lemma Descends.isBelow {name : String} (h : Descends name) :
    (buildFileIn root name).IsBelow root := (isBelow_buildFileIn_iff h.relative).2 h.ne_up

/-! ## Inspections -/

/-- The workspace below a root. -/
def Workspace.below (root : Path) (answer : (p : Probe) → p.Answer) : Workspace where
  buildFile? package :=
    let found : Bool := answer (.isFile (buildFileIn root package))
    if found then some (buildFileIn root package) else none
  isPackage? directory := some (answer (.isFile (buildFileIn root directory)))

/-- The probe that answers a question. -/
def Question.probe (root : Path) (q : Question) : Probe := .isFile (buildFileIn root q.name)

lemma run_lookUp (q : Question) :
    (lookUp root q).run answer = ([q.probe root], (Workspace.below root answer).answer q) := by
  cases q <;> rfl

namespace Inspection

variable {α β : Type}

/-- What an inspection asks and what comes of it, given all answers. -/
def held (answer : (p : Probe) → p.Answer) (i : Inspection α) :
    List Probe × Except InspectError α := i.run.run answer

lemma held_ofExcept (e : Except InspectError α) : (ofExcept e).held answer = ([], e) := rfl

lemma held_pure (a : α) : (pure a : Inspection α).held answer = ([], .ok a) := rfl

/-- One file is asked for. -/
lemma exists_held_read (answer : (p : Probe) → p.Answer) (path : Path) :
    ∃ result, (read path).held answer = ([.readFile path], result) := by
  simp only [held, read, ExceptT.run_mk, Dialogue.run_ask]
  cases answer (.readFile path) <;> exact ⟨_, rfl⟩

lemma held_bind (i : Inspection α) (f : α → Inspection β) :
    (i >>= f).held answer =
      match i.held answer with
      | (asked, .ok a) => (asked ++ ((f a).held answer).1, ((f a).held answer).2)
      | (asked, .error e) => (asked, .error e) := by
  unfold held
  rw [Dialogue.run_bind_exceptT]
  obtain ⟨asked, _ | a⟩ := i.run.run answer <;> rfl

lemma held_map (f : α → β) (i : Inspection α) :
    (f <$> i).held answer = ((i.held answer).1, f <$> (i.held answer).2) := by
  rw [map_eq_pure_bind, held_bind]
  obtain ⟨asked, _ | a⟩ := i.held answer
  · rfl
  · simp only [held_pure, List.append_nil]
    rfl

end Inspection

/-- An inquiry is held below a root as in the workspace below it, with one probe for each question.
-/
theorem held_belowRoot {α : Type} (i : Inquiry α) :
    (i.belowRoot root).held answer =
      ((i.inWorkspace (.below root answer)).1.map (·.probe root),
        (i.inWorkspace (.below root answer)).2.mapError .decode) := by
  have hanswer : (fun q => ((lookUp root q).run answer).2) = (Workspace.below root answer).answer :=
    funext fun q => by rw [run_lookUp]
  have hprobe : (fun q => ((lookUp root q).run answer).1) = fun q => [q.probe root] :=
    funext fun q => by rw [run_lookUp]
  simp only [Inquiry.belowRoot, Inspection.held, ExceptT.run_mk, Dialogue.run_bind,
    Dialogue.run_translate, hanswer, hprobe, Inquiry.inWorkspace, ← List.map_eq_flatMap]
  obtain ⟨asked, _ | a⟩ := i.run.run (Workspace.below root answer).answer <;> simp [Except.mapError]

/-! ## The run -/

/-- The registry and the message that are read. -/
def opened (args : Arguments) : Inspection (Registry × Wire.Package) := do
  let registry ← readRegistry ⟨args.registry⟩
  let data ← Inspection.read ⟨args.message⟩
  let m ← Inspection.ofExcept ((readMessage data).mapError .decode)
  return (registry, m)

/-- The members of the summary of a message. -/
def report (args : Arguments) (registry : Registry) (m : Wire.Package) :
    Inspection (List (String × Json)) :=
  if args.legacy then
    (fun d => d.package.summary d.events) <$>
      (CheckedPackage.ofWire registry m).belowRoot ⟨args.root⟩
  else
    (fun d => d.package.summary d.events) <$> (Package.ofWire registry m).belowRoot ⟨args.root⟩

lemma inspect_eq (args : Arguments) :
    inspect args = opened args >>= fun (registry, m) => report args registry m := by
  simp only [inspect, opened, report, bind_assoc, pure_bind, map_eq_pure_bind]

/-- One file is asked for, whatever its document says. -/
lemma exists_held_readRegistry (answer : (p : Probe) → p.Answer) (path : Path) :
    ∃ result, (readRegistry path).held answer = ([.readFile path], result) := by
  obtain ⟨data, hdata⟩ := Inspection.exists_held_read answer path
  rw [readRegistry, Inspection.held_bind, hdata]
  cases data with
  | error e => exact ⟨_, rfl⟩
  | ok data =>
    dsimp only
    cases Document.ofBytes? data with
    | none => exact ⟨_, rfl⟩
    | some d => exact ⟨_, rfl⟩

/-- Nothing but the registry and the message is read, in this order. -/
lemma asked_opened (args : Arguments) :
    ((opened args).held answer).1 <+: [.readFile ⟨args.registry⟩, .readFile ⟨args.message⟩] := by
  obtain ⟨data, hdata⟩ := Inspection.exists_held_read answer ⟨args.message⟩
  obtain ⟨r, hr⟩ := exists_held_readRegistry answer ⟨args.registry⟩
  rw [opened, Inspection.held_bind, hr]
  cases r with
  | error e => simp
  | ok r =>
    simp only [Inspection.held_bind, hdata]
    cases data with
    | error e => simp
    | ok data =>
      simp only [Inspection.held_ofExcept]
      cases (readMessage data).mapError InspectError.decode <;> simp [Inspection.held_pure]

variable {args : Arguments} {registry : Registry} {m : Wire.Package}

/-- A summary takes one probe for each question of decoding. -/
lemma exists_of_mem_held_report {p : Probe} (h : p ∈ ((report args registry m).held answer).1) :
    ∃ q, m.MayAsk q ∧ p = q.probe ⟨args.root⟩ := by
  unfold report at h
  split_ifs at h
  · rw [Inspection.held_map, held_belowRoot] at h
    obtain ⟨q, hq, rfl⟩ := List.mem_map.1 h
    exact ⟨q, CheckedPackage.asksOnly_ofWire q hq, rfl⟩
  · rw [Inspection.held_map, held_belowRoot] at h
    obtain ⟨q, hq, rfl⟩ := List.mem_map.1 h
    exact ⟨q, Package.asksOnly_ofWire q hq, rfl⟩

/-- The build file of the message is looked for. -/
lemma isFile_mem_held_report :
    .isFile (buildFileIn ⟨args.root⟩ m.name) ∈ ((report args registry m).held answer).1 := by
  unfold report
  split_ifs
  · rw [Inspection.held_map, held_belowRoot, CheckedPackage.ofWire_eq]
    exact List.mem_map.2 ⟨_, Inquiry.mem_inWorkspace_bind mem_asked_assemble _, rfl⟩
  · rw [Inspection.held_map, held_belowRoot, Package.ofWire_eq]
    exact List.mem_map.2 ⟨_, Inquiry.mem_inWorkspace_bind mem_asked_assemble _, rfl⟩

/-- A build file is known below a root in one place only. -/
lemma eq_of_below_buildFile? {package : String} {path : Path}
    (h : (Workspace.below root answer).buildFile? package = some path) :
    path = buildFileIn root package := by
  simp only [Workspace.below] at h
  split_ifs at h
  exact (Option.some.inj h).symm

/-- The summary tells the build file of the message. -/
lemma build_file_mem_of_held_report {members : List (String × Json)}
    (h : ((report args registry m).held answer).2 = .ok members) :
    ("build_file", .text (buildFileIn ⟨args.root⟩ m.name).text) ∈ members := by
  unfold report at h
  split_ifs at h
  · rw [Inspection.held_map, held_belowRoot, Outcome.map_eq_ok_iff] at h
    obtain ⟨d, hd, rfl⟩ := h
    rw [← eq_of_below_buildFile? (CheckedPackage.buildFile_of_outcome
      (Outcome.mapError_eq_ok_iff.1 hd))]
    exact List.mem_append_left _ List.mem_cons_self
  · rw [Inspection.held_map, held_belowRoot, Outcome.map_eq_ok_iff] at h
    obtain ⟨d, hd, rfl⟩ := h
    rw [← eq_of_below_buildFile? (Package.buildFile_of_outcome (Outcome.mapError_eq_ok_iff.1 hd))]
    exact List.mem_cons_self

/-- Once a message is opened, what is left to do is its summary. -/
lemma held_inspect_of_opened (h : ((opened args).held answer).2 = .ok (registry, m)) :
    (inspect args).held answer =
      (((opened args).held answer).1 ++ ((report args registry m).held answer).1,
        ((report args registry m).held answer).2) := by
  rw [inspect_eq, Inspection.held_bind]
  generalize (opened args).held answer = r at h
  obtain ⟨asked, result⟩ := r
  obtain rfl : result = .ok (registry, m) := h
  rfl

/-- If no message is opened, nothing else is done. -/
lemma held_inspect_of_not_opened {e : InspectError} (h : ((opened args).held answer).2 = .error e) :
    (inspect args).held answer = (((opened args).held answer).1, .error e) := by
  rw [inspect_eq, Inspection.held_bind]
  generalize (opened args).held answer = r at h
  obtain ⟨asked, result⟩ := r
  obtain rfl : result = .error e := h
  rfl

/-- Build files are looked for on behalf of an opened message only. -/
lemma isFile_mem_held_inspect_iff {path : Path} :
    .isFile path ∈ ((inspect args).held answer).1 ↔
      ∃ registry m, ((opened args).held answer).2 = .ok (registry, m) ∧
        .isFile path ∈ ((report args registry m).held answer).1 := by
  have hopened : .isFile path ∉ ((opened args).held answer).1 := by
    intro hpath
    simpa using (asked_opened args).subset hpath
  cases h : ((opened args).held answer).2 with
  | error e =>
    rw [held_inspect_of_not_opened h]
    exact iff_of_false hopened fun ⟨_, _, hok, _⟩ => nomatch hok
  | ok o =>
    obtain ⟨registry, m⟩ := o
    rw [held_inspect_of_opened h, List.mem_append, or_iff_right hopened]
    constructor
    · intro hpath
      exact ⟨registry, m, rfl, hpath⟩
    · rintro ⟨registry', m', hok, hpath⟩
      obtain ⟨rfl, rfl⟩ := Prod.mk.inj (Except.ok.inj hok)
      exact hpath

/-- The place of the build file of an opened message is looked at. -/
lemma isFile_mem_held_inspect (h : ((opened args).held answer).2 = .ok (registry, m)) :
    .isFile (buildFileIn ⟨args.root⟩ m.name) ∈ ((inspect args).held answer).1 :=
  isFile_mem_held_inspect_iff.2 ⟨registry, m, h, isFile_mem_held_report⟩

/-- A summary of an opened message tells this place. -/
lemma build_file_mem_of_held_inspect (h : ((opened args).held answer).2 = .ok (registry, m))
    {members : List (String × Json)} (hmembers : ((inspect args).held answer).2 = .ok members) :
    ("build_file", .text (buildFileIn ⟨args.root⟩ m.name).text) ∈ members := by
  rw [held_inspect_of_opened h] at hmembers
  exact build_file_mem_of_held_report hmembers

/-- Where the inspector looks for build files, and which one it tells. Every place lies below the
root, but for one: that of the name that the message gives itself. The inspector always looks there,
and a summary names this place. If the name is absolute, it is the same place for every root. If
not, the inspector keeps below the root exactly if the name never goes up.

**Proof sketch.** Reading the registry and the message looks for no build file. Decoding asks for the
name that the message gives itself and for names that lead below. -/
theorem inspect_isBelow_iff (args : Arguments) (answer : (p : Probe) → p.Answer) :
    (∀ path, .isFile path ∈ ((inspect args).held answer).1 → path.IsBelow ⟨args.root⟩ ∨
      ∃ registry m, ((opened args).held answer).2 = .ok (registry, m) ∧
        path = buildFileIn ⟨args.root⟩ m.name) ∧
    ∀ registry m, ((opened args).held answer).2 = .ok (registry, m) →
      .isFile (buildFileIn ⟨args.root⟩ m.name) ∈ ((inspect args).held answer).1 ∧
      (∀ members, ((inspect args).held answer).2 = .ok members →
        ("build_file", .text (buildFileIn ⟨args.root⟩ m.name).text) ∈ members) ∧
      (m.name.toList.head? = some '/' →
        buildFileIn ⟨args.root⟩ m.name = (⟨m.name⟩ : Path).join "BUILD") ∧
      (m.name.toList.head? ≠ some '/' →
        ((∀ path, .isFile path ∈ ((inspect args).held answer).1 → path.IsBelow ⟨args.root⟩) ↔
          ['.', '.'] ∉ Segments.split m.name.toList)) := by
  have hplace : ∀ registry m path, .isFile path ∈ ((report args registry m).held answer).1 →
      path.IsBelow ⟨args.root⟩ ∨ path = buildFileIn ⟨args.root⟩ m.name := by
    intro registry m path hpath
    obtain ⟨q, hq | hq, hprobe⟩ := exists_of_mem_held_report hpath
    · rw [hq] at hprobe
      exact .inr (Probe.isFile.inj hprobe)
    · rw [Probe.isFile.inj hprobe]
      exact .inl hq.isBelow
  constructor
  · intro path hpath
    obtain ⟨registry, m, hopened, hpath⟩ := isFile_mem_held_inspect_iff.1 hpath
    exact (hplace registry m path hpath).imp_right fun h => ⟨registry, m, hopened, h⟩
  · intro registry m hopened
    have hlooked := isFile_mem_held_inspect hopened
    refine ⟨hlooked, fun members => build_file_mem_of_held_inspect hopened,
      buildFileIn_of_absolute, fun hrelative => ⟨fun hbelow => ?_, ?_⟩⟩
    · exact (isBelow_buildFileIn_iff hrelative).1 (hbelow _ hlooked)
    · intro hup path hpath
      obtain ⟨registry', m', hopened', hpath⟩ := isFile_mem_held_inspect_iff.1 hpath
      obtain ⟨rfl, rfl⟩ := Prod.mk.inj (Except.ok.inj (hopened.symm.trans hopened'))
      rcases hplace _ _ _ hpath with hbelow | rfl
      · exact hbelow
      · exact (isBelow_buildFileIn_iff hrelative).2 hup

/-- A message with a label that is included and a target in a subpackage, and a message with an
absolute name, below one root. -/
theorem inspect_isBelow_iff_of_files :
    let m : Wire.Package :=
      { name := "app", subincludes := ["//lib:defs"], sourceFiles := [{ name := "//app:sub/x.c" }] }
    let m' : Wire.Package := { name := "/app" }
    let t := [("r.json", "{}".toUTF8), ("m.pb", m.encode), ("n.pb", m'.encode),
        ("ws/app/BUILD", .empty), ("ws/lib/BUILD", .empty), ("ws/app/sub/BUILD", .empty)].foldl
      (fun (t : FileTree) e => t.insert e.1 (some e.2)) .empty
    let args : Arguments := ⟨"m.pb", "r.json", "ws", true⟩
    let args' : Arguments := { args with message := "n.pb" }
    (∃ members, ((inspect args).held t.answer).2 = .ok members ∧
      ("build_file", .text (buildFileIn ⟨"ws"⟩ "app").text) ∈ members) ∧
    (∀ path, .isFile path ∈ ((inspect args).held t.answer).1 → path.IsBelow ⟨"ws"⟩) ∧
    .isFile (buildFileIn ⟨"ws"⟩ "/app") ∈ ((inspect args').held t.answer).1 ∧
    buildFileIn ⟨"ws"⟩ "/app" = (⟨"/app"⟩ : Path).join "BUILD" := by
  intro m m' t args args'
  have hm : ((opened args).held t.answer).2 = .ok (.empty, m) :=
    Outcome.toOption_eq_some_iff.1 (by decide +kernel)
  have hm' : ((opened args').held t.answer).2 = .ok (.empty, m') :=
    Outcome.toOption_eq_some_iff.1 (by decide +kernel)
  obtain ⟨members, hmembers⟩ : ∃ members, ((inspect args).held t.answer).2 = .ok members :=
    Outcome.isOk_iff.1 (by decide +kernel)
  obtain ⟨-, hreport, -, hrelative⟩ := (inspect_isBelow_iff args t.answer).2 _ _ hm
  obtain ⟨hlooked, -, habsolute, -⟩ := (inspect_isBelow_iff args' t.answer).2 _ _ hm'
  exact ⟨⟨members, hmembers, hreport members hmembers⟩, (hrelative (by decide)).2 (by decide),
    hlooked, habsolute (by decide)⟩

/-- A message whose own name leads out of the root: its build file is found and told. -/
theorem inspect_leaves_root :
    let m : Wire.Package := { name := "../x" }
    let t := [("r.json", "{}".toUTF8), ("m.pb", m.encode), ("ws/BUILD", .empty),
        ("x/BUILD", .empty)].foldl (fun (t : FileTree) e => t.insert e.1 (some e.2)) .empty
    let args : Arguments := ⟨"m.pb", "r.json", "ws", false⟩
    ∃ path : Path, path.text = "ws/../x/BUILD" ∧
      .isFile path ∈ ((inspect args).held t.answer).1 ∧
      (∃ members, ((inspect args).held t.answer).2 = .ok members ∧
        ("build_file", .text path.text) ∈ members) ∧
      ¬ path.IsBelow ⟨args.root⟩ := by
  intro m t args
  have hm : ((opened args).held t.answer).2 = .ok (.empty, m) :=
    Outcome.toOption_eq_some_iff.1 (by decide +kernel)
  obtain ⟨members, hmembers⟩ : ∃ members, ((inspect args).held t.answer).2 = .ok members :=
    Outcome.isOk_iff.1 (by decide +kernel)
  have hout : ¬ (buildFileIn ⟨"ws"⟩ "../x").IsBelow ⟨"ws"⟩ := by
    rw [isBelow_buildFileIn_iff (by decide)]
    decide
  exact ⟨buildFileIn ⟨args.root⟩ m.name, by decide, isFile_mem_held_inspect hm,
    ⟨members, hmembers, build_file_mem_of_held_inspect hm hmembers⟩, hout⟩

end BuildPackage
