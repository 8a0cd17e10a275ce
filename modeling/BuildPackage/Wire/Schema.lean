import BuildPackage.Wire.Key

set_option relaxedAutoImplicit false
set_option autoImplicit false

/-!
# Message schemas

A message type is described by its fields: for each, the number, how its part of a message is
written, and what reading one more occurrence of it does to a message. Writing and reading of a
message follow from the description.

## Main definitions

* `BuildPackage.Wire.Scalar` — the bytes of one value.
* `BuildPackage.Wire.Field` — one field of a message type.
* `BuildPackage.Wire.Schema` — the fields of a message type.
* `BuildPackage.Wire.Schema.write` — the bytes of a message.
* `BuildPackage.Wire.Schema.readFields` — reads fields into a message up to a point.
-/

namespace BuildPackage.Wire

/-! ## Scalars -/

/-- How one value is written and read. -/
structure Scalar (α : Type) where
  /-- The wire type in its key. -/
  wireType : WireType
  /-- The bytes after the key. -/
  write : α → List UInt8
  /-- Reads the bytes after the key. -/
  read : Reader α

namespace Scalar

/-- A signed number of 32 bits, extended by its sign to 64 bits. Of a longer number the low 32 bits
are read. -/
def int32 : Scalar Int32 where
  wireType := .varint
  write n := varint (n.toInt % 0x10000000000000000).toNat
  read := Int32.ofNat <$> readVarint

/-- A truth value. Every number other than zero is read as true. -/
def bool : Scalar Bool where
  wireType := .varint
  write b := varint b.toNat
  read := (· != 0) <$> readVarint

/-- A text in UTF-8 after its length. -/
def string : Scalar String where
  wireType := .lengthDelimited
  write s := delimited s.toUTF8.data.toList
  read := do
    match String.fromUTF8? (← Reader.bytes (← readVarint)) with
    | none => .fail .notUtf8
    | some s => return s

end Scalar

/-! ## Fields -/

/-- One field of a message type. -/
structure Field (μ : Type) where
  /-- The number in the field's keys. -/
  number : Nat
  /-- The name in faults. -/
  name : String
  /-- The field's part of a message. -/
  write : μ → List UInt8
  /-- Reads one more occurrence into a message, after a key of some wire type and at a given depth of
  further nesting. -/
  read : Nat → WireType → μ → Reader μ

/-- The part of a message that a field holds. -/
structure Part (μ α : Type) where
  /-- The part of a message. -/
  get : μ → α
  /-- The message with another part. -/
  set : α → μ → μ

/-- The fields of a message type. -/
structure Schema (μ : Type) where
  /-- The name in faults. -/
  name : String
  /-- The message without fields. -/
  blank : μ
  /-- The fields in the order in which they are written. -/
  fields : List (Field μ)

/-- Refuses a known field that has the wrong wire type. -/
def expect (expected found : WireType) : Reader Unit :=
  if found = expected then return () else .fail (.unexpectedWireType found expected)

namespace Schema

variable {μ : Type}

/-- The bytes of a message. -/
def write (s : Schema μ) (m : μ) : List UInt8 := s.fields.flatMap fun f => f.write m

/-- Reads the value after a key into a message. An unknown field leaves the message as it is. -/
def readField (s : Schema μ) (depth : Nat) (key : Key) (m : μ) : Reader μ :=
  match s.fields.find? fun f => f.number = key.number with
  | some f => (f.read depth key.wireType m).within s.name f.name
  | none => do
    skipField depth key
    return m

/-- Reads fields into a message while more than the given number of bytes is unread. The first cursor
is where the reading began. -/
def readFieldsFrom (s : Schema μ) (depth stop : Nat) (origin : Cursor) (m : μ) (c : Cursor)
    (hc : c.remaining ≤ origin.remaining) : Except Malformed (Step μ origin) :=
  if c.remaining ≤ stop then .ok ⟨m, c, hc⟩
  else
    match h : readKey c with
    | .error e => .error e
    | .ok k =>
      match s.readField depth k.value m k.rest with
      | .error e => .error e
      | .ok f =>
        have := remaining_lt_of_readKey h
        have := f.le
        s.readFieldsFrom depth stop origin f.value f.rest
          (Nat.le_trans f.le (Nat.le_trans k.le hc))
termination_by c.remaining

/-- Reads fields into a message while more than the given number of bytes is unread. -/
def readFields (s : Schema μ) (depth stop : Nat) (m : μ) : Reader μ := fun c =>
  s.readFieldsFrom depth stop c m c c.remaining_le_self

/-- Reads the fields of a nested message into a message. The length counts down all unread bytes, and
the last field has to end where the length says. -/
def readNested (s : Schema μ) (m : μ) : Nat → Reader μ
  | 0 => .fail .tooDeep
  | depth + 1 => do
    let length ← readVarint
    let available ← Reader.remaining
    if available < length then .fail .underflow
    else
      let m ← s.readFields depth (available - length) m
      if (← Reader.remaining) = available - length then return m else .fail .lengthExceeded

end Schema

namespace Field

variable {μ α : Type}

/-- The key and the bytes of one value. -/
def writeValue (number : Nat) (s : Scalar α) (a : α) : List UInt8 :=
  Key.bytes ⟨number, s.wireType⟩ ++ s.write a

/-- The key and the bytes of one nested message. -/
def writeNested (number : Nat) (s : Schema α) (a : α) : List UInt8 :=
  Key.bytes ⟨number, .lengthDelimited⟩ ++ delimited (s.write a)

/-- A value that is always there. It is written unless it has its default value, and the last
occurrence is kept. -/
def plain [DecidableEq α] (number : Nat) (name : String) (s : Scalar α) (default : α)
    (p : Part μ α) : Field μ where
  number := number
  name := name
  write m := if p.get m = default then [] else writeValue number s (p.get m)
  read _ found m := do
    expect s.wireType found
    return p.set (← s.read) m

/-- A value that may be absent. It is written when it is there, and the last occurrence is kept. -/
def optional (number : Nat) (name : String) (s : Scalar α) (p : Part μ (Option α)) :
    Field μ where
  number := number
  name := name
  write m := (p.get m).elim [] (writeValue number s)
  read _ found m := do
    expect s.wireType found
    return p.set (some (← s.read)) m

/-- A list of values. Each occurrence adds one at the end. -/
def repeated (number : Nat) (name : String) (s : Scalar α) (p : Part μ (List α)) :
    Field μ where
  number := number
  name := name
  write m := (p.get m).flatMap (writeValue number s)
  read _ found m := do
    expect s.wireType found
    return p.set (p.get m ++ [← s.read]) m

/-- A nested message that may be absent. A further occurrence is read into the message that is there. -/
def message (number : Nat) (name : String) (s : Schema α) (p : Part μ (Option α)) :
    Field μ where
  number := number
  name := name
  write m := (p.get m).elim [] (writeNested number s)
  read depth found m := do
    expect .lengthDelimited found
    return p.set (some (← s.readNested ((p.get m).getD s.blank) depth)) m

/-- A list of nested messages. Each occurrence adds one at the end. -/
def messages (number : Nat) (name : String) (s : Schema α) (p : Part μ (List α)) :
    Field μ where
  number := number
  name := name
  write m := (p.get m).flatMap (writeNested number s)
  read depth found m := do
    expect .lengthDelimited found
    return p.set (p.get m ++ [← s.readNested s.blank depth]) m

end Field

end BuildPackage.Wire
