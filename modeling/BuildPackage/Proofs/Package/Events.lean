import BuildPackage.Proofs.Package.Boundary

set_option relaxedAutoImplicit false
set_option autoImplicit false

/-!
# Events of packages

Events are data. Whatever events a message has, it is decoded after the same questions and to the
same package, or fails with the same error. The events of a kind that is known are kept, one by one
and in order; events of other kinds may stand anywhere or be missing and nothing changes. Whether an
error was reported is a question about the events alone, and whether the package contains errors is
one about the flag of the message. With a search for subpackages the reports of crossings come behind
all events of the message.

## Main definitions

* `BuildPackage.EventKind.code` — the number of a kind in a message.
* `BuildPackage.Event.Renders` — an event that comes from an event of a message.
* `BuildPackage.EventLog.Replays` — the events of a message with the reports of some crossings.

## Main results

* `BuildPackage.EventLog.renders_ofWire` — the events of a message, one by one.
* `BuildPackage.agree_assemble_events` — other events make no other package.
* `BuildPackage.Package.events_are_data` — what events do to a package and what becomes of them.
-/

namespace BuildPackage

/-! ## Kinds -/

namespace EventKind

/-- The number of a kind in a message. -/
def code : EventKind → Int32
  | error => 1
  | warning => 2
  | info => 3
  | progress => 4

lemma ofCode?_eq_some_iff {c : Int32} {kind : EventKind} :
    ofCode? c = some kind ↔ c = kind.code := by
  have hcode : ∀ n : Int32, c.toInt = n.toInt ↔ c = n := fun n => Int32.toInt_inj
  cases kind <;> rw [code, ← hcode] <;> unfold ofCode? <;> split <;> simp_all

end EventKind

/-- Whether the kind of an event is known: the numbers of kinds run from one to four. -/
def Wire.Event.isKnown (e : Wire.Event) : Bool := 1 ≤ e.kind && e.kind ≤ 4

lemma isSome_ofCode?_kind (e : Wire.Event) : (EventKind.ofCode? e.kind).isSome = e.isKnown := by
  have hone : (1 : Int32).toInt = 1 := rfl
  have hfour : (4 : Int32).toInt = 4 := rfl
  rw [Bool.eq_iff_iff, Wire.Event.isKnown, Bool.and_eq_true, decide_eq_true_eq, decide_eq_true_eq,
    Int32.le_iff_toInt_le, Int32.le_iff_toInt_le, hone, hfour]
  unfold EventKind.ofCode?
  generalize e.kind.toInt = n
  split
  iterate 4 decide
  · rename_i h₁ h₂ h₃ h₄
    have hne : n ≠ 1 ∧ n ≠ 2 ∧ n ≠ 3 ∧ n ≠ 4 := ⟨h₁, h₂, h₃, h₄⟩
    simp only [Option.isSome_none, Bool.false_eq_true, false_iff]
    omega

/-! ## Events -/

/-- An event that comes from an event of a message. -/
structure Event.Renders (buildFile : Path) (e : Wire.Event) (x : Event) : Prop where
  /-- The kind is that of the number given. -/
  kind : e.kind = x.kind.code
  /-- The text is the one given. -/
  message : x.message = e.message
  /-- There is a place exactly if one is given, and it comes from that one. -/
  location : Option.Rel (fun l y => Location.Renders buildFile (some l) y) e.location x.location

variable {buildFile : Path} {e : Wire.Event} {x : Event}

lemma Event.renders_of_ofWire? (h : Event.ofWire? buildFile e = some x) :
    x.Renders buildFile e := by
  obtain ⟨kind, hkind, rfl⟩ := Option.map_eq_some_iff.1 h
  refine ⟨EventKind.ofCode?_eq_some_iff.1 hkind, rfl, ?_⟩
  cases e.location with
  | none => exact .none
  | some l => exact .some (Location.renders_ofWire buildFile (some l))

lemma Event.isSome_ofWire? (buildFile : Path) (e : Wire.Event) :
    (Event.ofWire? buildFile e).isSome = e.isKnown := by
  rw [Event.ofWire?, Option.isSome_map, isSome_ofCode?_kind]

namespace EventLog

/-- The events of a message are those of a known kind, one by one. -/
theorem renders_ofWire (buildFile : Path) (events : List Wire.Event) :
    List.Forall₂ (fun e x => x.Renders buildFile e) (events.filter (·.isKnown))
      (ofWire buildFile events).toList := by
  induction events with
  | nil => exact .nil
  | cons e events ih =>
    cases hx : Event.ofWire? buildFile e with
    | none =>
      have hknown : ¬ e.isKnown = true := by
        rw [← Event.isSome_ofWire? buildFile, hx]
        simp
      rw [List.filter_cons_of_neg hknown]
      simpa only [ofWire, List.filterMap_cons_none hx] using ih
    | some x =>
      have hknown : e.isKnown = true := by
        rw [← Event.isSome_ofWire? buildFile, hx]
        rfl
      rw [List.filter_cons_of_pos hknown]
      simpa only [ofWire, List.filterMap_cons_some hx] using
        List.Forall₂.cons (Event.renders_of_ofWire? hx) ih

/-- Only the events of a known kind count. -/
lemma ofWire_congr {events events' : List Wire.Event}
    (h : events'.filter (·.isKnown) = events.filter (·.isKnown)) :
    ofWire buildFile events' = ofWire buildFile events := by
  have hfilter : ∀ events : List Wire.Event,
      ofWire buildFile events = ofWire buildFile (events.filter (·.isKnown)) := by
    intro events
    rw [ofWire, ofWire, List.filterMap_filter]
    refine congrArg mk (List.filterMap_congr fun e _ => ?_)
    rw [← Event.isSome_ofWire? buildFile]
    cases Event.ofWire? buildFile e <;> rfl
  rw [hfilter, h, ← hfilter]

/-- An error is reported exactly if the message has an event of the first kind. -/
lemma hasErrors_ofWire_iff (buildFile : Path) (events : List Wire.Event) :
    (ofWire buildFile events).hasErrors = true ↔ ∃ e ∈ events, e.kind = 1 := by
  simp only [hasErrors, ofWire, List.any_eq_true, List.mem_filterMap, decide_eq_true_eq]
  constructor
  · rintro ⟨x, ⟨e, he, hx⟩, hkind⟩
    refine ⟨e, he, ?_⟩
    rw [(Event.renders_of_ofWire? hx).kind, hkind]
    rfl
  · rintro ⟨e, he, hkind⟩
    have hcode : EventKind.ofCode? e.kind = some .error := EventKind.ofCode?_eq_some_iff.2 hkind
    have hevent : ∃ x, Event.ofWire? buildFile e = some x ∧ x.kind = .error := by
      rw [Event.ofWire?, hcode]
      exact ⟨_, rfl, rfl⟩
    obtain ⟨x, hx, hxkind⟩ := hevent
    exact ⟨x, ⟨e, he, hx⟩, hxkind⟩

/-- The events of a decoded package: those of the message whose kind is known, one by one, and behind
them a report for each crossing. -/
structure Replays (buildFile : Path) (events : List Wire.Event) (crossings : List Crossing)
    (log : EventLog) : Prop where
  /-- The events come one by one, in order, and so do the reports behind them. -/
  parts : ∃ replayed reports, log.toList = replayed ++ reports ∧
    List.Forall₂ (fun e x => x.Renders buildFile e) (events.filter (·.isKnown)) replayed ∧
    List.Forall₂ (fun c x => ∃ location, x = Crossing.event c location) crossings reports
  /-- An error is reported exactly if the message says so or there is a crossing. -/
  hasErrors_iff : log.hasErrors = true ↔ (∃ e ∈ events, e.kind = 1) ∨ crossings ≠ []

/-- The events of a message with reports of crossings behind them. -/
lemma replays_append (buildFile : Path) (events : List Wire.Event)
    (found : List (Crossing × Location)) :
    ((ofWire buildFile events).append (found.map fun c => c.1.event c.2)).Replays buildFile events
      (found.map Prod.fst) := by
  refine ⟨⟨_, _, rfl, renders_ofWire buildFile events, ?_⟩, ?_⟩
  · exact (forall₂_event found).imp fun _ _ h => h.2
  · rw [← hasErrors_ofWire_iff buildFile, hasErrors, append, List.any_append,
      Bool.or_eq_true]
    cases found with
    | nil => simp [hasErrors]
    | cons c found => simp [hasErrors, Crossing.event]

/-- The events of a message without crossings. -/
lemma replays_ofWire (buildFile : Path) (events : List Wire.Event) :
    (ofWire buildFile events).Replays buildFile events [] := by
  have h := replays_append buildFile events []
  rwa [List.map_nil, List.map_nil, append, List.append_nil] at h

end EventLog

/-! ## Packages -/

variable {registry : Registry} {w : Workspace} {m : Wire.Package} {b : Builder} {log : EventLog}

/-- A message with other events is assembled after the same questions to the same builder, or fails
with the same error. -/
theorem agree_assemble_events (registry : Registry) (w : Workspace) (m : Wire.Package)
    (events : List Wire.Event) :
    (assemble registry m).Agree (fun x x' => x'.1 = x.1) w (assemble registry { m with events }) := by
  unfold assemble
  refine (Inquiry.agree_self (Setting.ofWire m)).bind fun s s' hs => ?_
  subst hs
  exact (Inquiry.agree_self (Inquiry.ofExcept (Builder.ofWire registry m s'))).bind
    fun b b' hb => .pure hb

/-- A message with the same events of a known kind is assembled alike, events included. -/
lemma assemble_congr_events {events : List Wire.Event}
    (h : events.filter (·.isKnown) = m.events.filter (·.isKnown)) :
    assemble registry { m with events } = assemble registry m := by
  have hlog : ∀ buildFile, EventLog.ofWire buildFile events = .ofWire buildFile m.events :=
    fun _ => EventLog.ofWire_congr h
  have hsetting : Setting.ofWire { m with events } = Setting.ofWire m := rfl
  have hbuilder : Builder.ofWire registry { m with events } = Builder.ofWire registry m := rfl
  simp only [assemble, hsetting, hbuilder, hlog]

/-- What is assembled has the events of the message and its flag. -/
lemma of_outcome_assemble (h : (assemble registry m).outcome w = .ok (b, log)) :
    log = .ofWire b.buildFile m.events ∧ b.containsErrors = m.containsErrors.getD false := by
  obtain ⟨s, -, hb, rfl⟩ := outcome_assemble_eq_ok_iff.1 h
  obtain ⟨files, groups, rules, -, -, -, -, rfl⟩ := Builder.ofWire_eq_ok_iff.1 hb
  exact ⟨rfl, rfl⟩

/-- Finishing a builder with other events gives the same package, or fails with the same error. -/
lemma Builder.agree_finishChecked (b : Builder) (log log' : EventLog) :
    (b.finishChecked log).Agree (fun d d' => d'.package = d.package) w (b.finishChecked log') := by
  constructor
  · rw [b.inWorkspace_finishChecked, b.inWorkspace_finishChecked]
  · rw [Inquiry.outcome, Inquiry.outcome, b.inWorkspace_finishChecked, b.inWorkspace_finishChecked]
    dsimp only
    split_ifs
    · exact .error _
    · exact .ok rfl

/-- Events are data and not failures.

With other events a message is decoded after the same questions to an equal package, or fails with
the same error. What is decoded has the events of a known kind and tells from the flag of the message
alone whether it contains errors. With the same events of a known kind nothing changes at all. So it
is with a search for subpackages, where the reports of crossings come behind the events and every
crossing is an error.

**Proof sketch.** The events are looked at last, when nothing can fail any more, and go nowhere but
into the events of the package. -/
theorem Package.events_are_data (registry : Registry) (w : Workspace) (m : Wire.Package) :
    (∀ events, (Package.ofWire registry m).Agree (fun d d' => d'.package = d.package) w
        (Package.ofWire registry { m with events }) ∧
      (CheckedPackage.ofWire registry m).Agree (fun d d' => d'.package = d.package) w
        (CheckedPackage.ofWire registry { m with events })) ∧
    (∀ d, (Package.ofWire registry m).outcome w = .ok d →
      d.events.Replays d.package.buildFile m.events [] ∧
        d.package.containsErrors = m.containsErrors.getD false) ∧
    (∀ d, (CheckedPackage.ofWire registry m).outcome w = .ok d →
      d.events.Replays d.package.package.buildFile m.events d.package.crossings ∧
        d.package.package.containsErrors =
          (m.containsErrors.getD false || !d.package.crossings.isEmpty)) ∧
    ∀ events, events.filter (·.isKnown) = m.events.filter (·.isKnown) →
      Package.ofWire registry { m with events } = Package.ofWire registry m ∧
        CheckedPackage.ofWire registry { m with events } = CheckedPackage.ofWire registry m := by
  refine ⟨fun events => ⟨?_, ?_⟩, fun d hd => ?_, fun d hd => ?_, fun events h => ⟨?_, ?_⟩⟩
  · rw [Package.ofWire_eq, Package.ofWire_eq]
    refine (agree_assemble_events registry w m events).bind ?_
    rintro ⟨b, log⟩ ⟨b', log'⟩ hb
    obtain rfl : b' = b := hb
    exact .pure rfl
  · rw [CheckedPackage.ofWire_eq, CheckedPackage.ofWire_eq]
    refine (agree_assemble_events registry w m events).bind ?_
    rintro ⟨b, log⟩ ⟨b', log'⟩ hb
    obtain rfl : b' = b := hb
    exact b'.agree_finishChecked log log'
  · obtain ⟨b, hb, hbuild⟩ := Package.outcome_eq_ok_iff.1 hd
    obtain ⟨hlog, herrors⟩ := of_outcome_assemble hb
    rw [← hbuild, hlog]
    exact ⟨EventLog.replays_ofWire _ _, herrors⟩
  · obtain ⟨b, log, hb, -, rfl⟩ := CheckedPackage.outcome_eq_ok_iff.1 hd
    obtain ⟨rfl, herrors⟩ := of_outcome_assemble hb
    refine ⟨EventLog.replays_append _ _ _, ?_⟩
    rw [← herrors, List.isEmpty_map]
  · rw [Package.ofWire_eq, Package.ofWire_eq, assemble_congr_events h]
  · rw [CheckedPackage.ofWire_eq, CheckedPackage.ofWire_eq, assemble_congr_events h]

/-- A fault and a note, with events of unknown kinds around them, in a package with a file that
reaches into a subpackage and without a flag. -/
theorem Package.events_are_data_of_unknown_kind :
    let fault : Wire.Event := { kind := 1, message := "no such rule" }
    let note : Wire.Event := { kind := 3, location := some { startLine := some 4 }, message := "4" }
    let m : Wire.Package :=
      { name := "app"
        sourceFiles := [{ name := "//app:lib/x.c" }]
        events := [fault, { kind := 9 }, note] }
    let events : List Wire.Event := [{ kind := 0 }, fault, note, { kind := -1 }]
    let w : Workspace :=
      ⟨fun package => some ⟨package ++ "/BUILD"⟩, fun d => some (d == "app/lib")⟩
    events ≠ m.events ∧ events.filter (·.isKnown) = m.events.filter (·.isKnown) ∧
      (∃ d, (Package.ofWire .empty m).outcome w = .ok d ∧
        d.events.Replays d.package.buildFile m.events [] ∧ d.package.containsErrors = false) ∧
      (∃ d, (CheckedPackage.ofWire .empty m).outcome w = .ok d ∧
        d.events.Replays d.package.package.buildFile m.events d.package.crossings ∧
        d.package.package.containsErrors = !d.package.crossings.isEmpty) ∧
      Package.ofWire .empty { m with events } = Package.ofWire .empty m ∧
      CheckedPackage.ofWire .empty { m with events } = CheckedPackage.ofWire .empty m := by
  intro fault note m events w
  obtain ⟨-, hplain, hchecked, hsame⟩ := Package.events_are_data .empty w m
  have hfilter : events.filter (·.isKnown) = m.events.filter (·.isKnown) := by decide
  have hd : ((Package.ofWire .empty m).outcome w).isOk = true := by decide +kernel
  have hc : ((CheckedPackage.ofWire .empty m).outcome w).isOk = true := by decide +kernel
  obtain ⟨d, hd⟩ := Outcome.isOk_iff.1 hd
  obtain ⟨c, hc⟩ := Outcome.isOk_iff.1 hc
  exact ⟨by decide, hfilter, ⟨d, hd, hplain d hd⟩, ⟨c, hc, hchecked c hc⟩, hsame events hfilter⟩

end BuildPackage
