set_option relaxedAutoImplicit false
set_option autoImplicit false

/-!
# Command-line arguments

The inspector takes one message file, a registry, and optionally a workspace root and a flag. A value
follows its option as the next argument or after an equals sign. What was given for an option or for
the message is looked at when the next argument that means something comes, so that a fault in it is
found before that argument counts; an argument that means nothing is refused at once.

## Main definitions

* `BuildPackage.Arguments` — what a command line says.
* `BuildPackage.UsageError` — why a command line is refused, or what it asks for instead.
* `BuildPackage.Arguments.parse` — reads a command line.
-/

namespace BuildPackage

/-- Why a command line is refused, or what it asks for instead of a run. -/
inductive UsageError where
  /-- The message or the registry is missing. -/
  | missingRequired
  /-- An argument means nothing. -/
  | unknownArgument
  /-- Something is given twice. -/
  | givenTwice
  /-- A value is missing or empty. -/
  | invalidValue
  /-- A flag is given a value. -/
  | unexpectedValue
  /-- Help is asked for. -/
  | help
  /-- The version is asked for. -/
  | version
  deriving DecidableEq, Repr

/-- What a command line says. -/
structure Arguments where
  /-- The message file. -/
  message : String
  /-- The registry file. -/
  registry : String
  /-- The workspace root. -/
  root : String
  /-- Whether to search for targets that reach into subpackages. -/
  legacy : Bool
  deriving DecidableEq, Repr

namespace Arguments

/-! ## Words -/

/-- What takes a value. -/
inductive Slot where
  | message
  | registry
  | root
  deriving DecidableEq, Repr

/-- What one argument is, before it is known whether it is a value. -/
inductive Word where
  /-- Two dashes alone: all further arguments are values. -/
  | escape
  /-- Two dashes and a name, perhaps with a value. -/
  | long (name : List Char) (value : Option (List Char))
  /-- One dash and letters. -/
  | short (letters : List Char)
  /-- Anything else, also a single dash. -/
  | plain
  deriving DecidableEq, Repr

/-- The text before and after the first equals sign, if there is one. -/
def cutEquals (cs : List Char) : List Char × Option (List Char) :=
  match cs.dropWhile (· != '=') with
  | _ :: value => (cs.takeWhile (· != '='), some value)
  | [] => (cs, none)

/-- What an argument is. -/
def Word.ofString (arg : String) : Word :=
  match arg.toList with
  | ['-', '-'] => escape
  | '-' :: '-' :: rest => let (name, value) := cutEquals rest; long name value
  | ['-'] => plain
  | '-' :: letters => short letters
  | _ => plain

/-- What a name after two dashes stands for. -/
inductive LongName where
  /-- An option with a value. -/
  | option (slot : Slot)
  /-- The flag. -/
  | legacy
  /-- A request for something else than a run. -/
  | request (error : UsageError)
  deriving DecidableEq, Repr

/-- The meaning of a name after two dashes. -/
def LongName.ofChars? (name : List Char) : Option LongName :=
  match String.ofList name with
  | "registry" => some (option .registry)
  | "root" => some (option .root)
  | "legacy" => some legacy
  | "help" => some (request .help)
  | "version" => some (request .version)
  | _ => none

/-! ## Reading -/

/-- What has been read of a command line. -/
structure Progress where
  /-- The message file. -/
  message : Option String := none
  /-- The registry file. -/
  registry : Option String := none
  /-- The workspace root. -/
  root : Option String := none
  /-- Whether the flag was given. -/
  legacy : Bool := false
  /-- What was given last and not looked at yet, with its value if there is one. -/
  pending : Option (Slot × Option String) := none
  /-- Whether a message was given. -/
  messageSeen : Bool := false
  /-- Whether all further arguments are values. -/
  escaped : Bool := false
  deriving DecidableEq, Repr

namespace Progress

/-- The value of a slot. -/
def get? (p : Progress) : Slot → Option String
  | .message => p.message
  | .registry => p.registry
  | .root => p.root

/-- Fills a slot. -/
def fill (p : Progress) (value : String) : Slot → Progress
  | .message => { p with message := some value }
  | .registry => { p with registry := some value }
  | .root => { p with root := some value }

/-- Looks at what was given for a slot: first whether there is a value, then whether the slot was
filled before, then whether the value is empty. -/
def accept (p : Progress) (slot : Slot) (value : Option String) : Except UsageError Progress :=
  match value with
  | none => .error .invalidValue
  | some v =>
    if (p.get? slot).isSome then .error .givenTwice
    else if v.isEmpty then .error .invalidValue
    else .ok (p.fill v slot)

/-- Looks at what was given last. -/
def settle (p : Progress) : Except UsageError Progress :=
  match p.pending with
  | none => .ok p
  | some (slot, value) => { p with pending := none }.accept slot value

/-- Whether an option waits for its value. -/
def awaitsValue (p : Progress) : Option Slot :=
  match p.pending with
  | some (slot, none) => some slot
  | _ => none

/-- Reads a value: for the option that waits for one, or as the message. After two dashes no option
takes it. -/
def value (p : Progress) (arg : String) : Except UsageError Progress :=
  match if p.escaped then none else p.awaitsValue with
  | some slot => .ok { p with pending := some (slot, some arg) }
  | none =>
    if p.messageSeen then .error .unknownArgument
    else return { ← p.settle with pending := some (.message, some arg), messageSeen := true }

/-- Reads a name after two dashes. -/
def long (p : Progress) (name : List Char) (value : Option (List Char)) :
    Except UsageError Progress :=
  match LongName.ofChars? name, value with
  | none, _ => .error .unknownArgument
  | some (.option slot), none => return { ← p.settle with pending := some (slot, none) }
  | some (.option slot), some v => do (← p.settle).accept slot (some (String.ofList v))
  | some _, some _ => .error .unexpectedValue
  | some .legacy, none => do
    let p ← p.settle
    if p.legacy then .error .givenTwice else return { p with legacy := true }
  | some (.request e), none => do
    let _ ← p.settle
    .error e

/-- Reads the letters after one dash. The first already decides, as both letters that mean something
end the reading. -/
def short (p : Progress) : List Char → Except UsageError Progress
  | 'h' :: _ => do
    let _ ← p.settle
    .error .help
  | 'V' :: _ => do
    let _ ← p.settle
    .error .version
  | _ => .error .unknownArgument

/-- Reads one more argument. -/
def next (p : Progress) (arg : String) : Except UsageError Progress :=
  if p.escaped then p.value arg
  else
    match Word.ofString arg with
    | .escape => .ok { p with escaped := true }
    | .long name value => p.long name value
    | .short letters => p.short letters
    | .plain => p.value arg

/-- What the command line says when all of it was read. -/
def finish (p : Progress) : Except UsageError Arguments := do
  let p ← p.settle
  match p.message, p.registry with
  | some message, some registry =>
    return { message, registry, root := p.root.getD ".", legacy := p.legacy }
  | _, _ => .error .missingRequired

end Progress

/-- Reads a command line, without the name of the program. -/
def parse (args : List String) : Except UsageError Arguments := do
  (← args.foldlM Progress.next {}).finish

end Arguments

end BuildPackage
