import BuildPackage.Location

set_option relaxedAutoImplicit false
set_option autoImplicit false

/-!
# Events

What the evaluation of a build file reported. Events are data: an error among them does not make
decoding fail.

## Main definitions

* `BuildPackage.Event` — one report.
* `BuildPackage.EventLog` — reports in order.
* `BuildPackage.EventLog.ofWire` — the events of a message, without those of an unknown kind.
-/

namespace BuildPackage

/-- How serious an event is. -/
inductive EventKind where
  | error
  | warning
  | info
  | progress
  deriving DecidableEq, Repr

namespace EventKind

/-- The name of a kind. -/
def text : EventKind → String
  | error => "ERROR"
  | warning => "WARNING"
  | info => "INFO"
  | progress => "PROGRESS"

/-- The kind of a number in a message. -/
def ofCode? (code : Int32) : Option EventKind :=
  match code.toInt with
  | 1 => some error
  | 2 => some warning
  | 3 => some info
  | 4 => some progress
  | _ => none

end EventKind

/-- One report. -/
structure Event where
  /-- How serious it is. -/
  kind : EventKind
  /-- What it is about. -/
  location : Option Location
  /-- The text. -/
  message : String
  deriving BEq

namespace Event

/-- The kind, the location if there is one, and the text. -/
def text (e : Event) : String :=
  match e.location with
  | some l => e.kind.text ++ ": " ++ l.text ++ ": " ++ e.message
  | none => e.kind.text ++ ": " ++ e.message

instance : ToString Event := ⟨text⟩

/-- The event of a message, in a build file, unless its kind is unknown. -/
def ofWire? (buildFile : Path) (e : Wire.Event) : Option Event :=
  (EventKind.ofCode? e.kind).map fun kind =>
    ⟨kind, e.location.map fun l => Location.ofWire buildFile (some l), e.message⟩

end Event

/-- Events in the order of their reports. -/
structure EventLog where
  /-- The events. -/
  toList : List Event
  deriving BEq, Inhabited

namespace EventLog

/-- The log without events. -/
def empty : EventLog := ⟨[]⟩

/-- The number of events. -/
def size (log : EventLog) : Nat := log.toList.length

/-- Whether there is no event. -/
def isEmpty (log : EventLog) : Bool := log.toList.isEmpty

/-- Adds an event at the end. -/
def push (log : EventLog) (e : Event) : EventLog := ⟨log.toList ++ [e]⟩

/-- Adds events at the end. -/
def append (log : EventLog) (events : List Event) : EventLog := ⟨log.toList ++ events⟩

/-- The events of one kind, in order. -/
def ofKind (log : EventLog) (kind : EventKind) : List Event :=
  log.toList.filter fun e => e.kind = kind

/-- Whether an error was reported. -/
def hasErrors (log : EventLog) : Bool := log.toList.any fun e => e.kind = .error

/-- The events of a message, in a build file. -/
def ofWire (buildFile : Path) (events : List Wire.Event) : EventLog :=
  ⟨events.filterMap (Event.ofWire? buildFile)⟩

end EventLog

end BuildPackage
