set_option relaxedAutoImplicit false
set_option autoImplicit false

/-!
# Malformed messages

What can be wrong with the bytes of a message, and where in the message it was found.

## Main definitions

* `BuildPackage.Wire.WireType` — how the value after a key is delimited.
* `BuildPackage.Wire.Fault` — what is wrong with the bytes.
* `BuildPackage.Wire.Malformed` — a fault with the fields that were being read.
-/

namespace BuildPackage.Wire

/-! ## Wire types -/

/-- How the value after a key is delimited. -/
inductive WireType where
  /-- A base-128 number. -/
  | varint
  /-- Eight bytes. -/
  | sixtyFourBit
  /-- A length and that many bytes. -/
  | lengthDelimited
  /-- Fields up to the matching end of the group. -/
  | startGroup
  /-- The end of a group. -/
  | endGroup
  /-- Four bytes. -/
  | thirtyTwoBit
  deriving DecidableEq, Repr, Inhabited

namespace WireType

/-- The number of a wire type in a key. -/
def code : WireType → Nat
  | varint => 0
  | sixtyFourBit => 1
  | lengthDelimited => 2
  | startGroup => 3
  | endGroup => 4
  | thirtyTwoBit => 5

/-- The wire type of a number. -/
def ofCode? : Nat → Option WireType
  | 0 => some varint
  | 1 => some sixtyFourBit
  | 2 => some lengthDelimited
  | 3 => some startGroup
  | 4 => some endGroup
  | 5 => some thirtyTwoBit
  | _ => none

theorem ofCode?_code (w : WireType) : ofCode? w.code = some w := by cases w <;> rfl

/-- The name of a wire type in messages. -/
def name : WireType → String
  | varint => "Varint"
  | sixtyFourBit => "SixtyFourBit"
  | lengthDelimited => "LengthDelimited"
  | startGroup => "StartGroup"
  | endGroup => "EndGroup"
  | thirtyTwoBit => "ThirtyTwoBit"

end WireType

/-! ## Faults -/

/-- What is wrong with the bytes of a message. -/
inductive Fault where
  /-- A number does not end, or is larger than 64 bits. -/
  | badVarint
  /-- A key is larger than 32 bits. -/
  | keyTooLarge (key : Nat)
  /-- A key has a wire type that does not exist. -/
  | unknownWireType (code : Nat)
  /-- A key has the field number zero. -/
  | zeroNumber
  /-- A known field has the wrong wire type. -/
  | unexpectedWireType (found expected : WireType)
  /-- A length reaches beyond the end of the bytes. -/
  | underflow
  /-- A string is not UTF-8. -/
  | notUtf8
  /-- The last field of a message reaches beyond the end of the message. -/
  | lengthExceeded
  /-- The end of a group matches no start. -/
  | strayGroupEnd
  /-- Messages and groups are nested too deeply. -/
  | tooDeep
  deriving DecidableEq, Repr

/-- The wording of a fault. -/
def Fault.message : Fault → String
  | badVarint => "invalid varint"
  | keyTooLarge key => s!"invalid key value: {key}"
  | unknownWireType code => s!"invalid wire type value: {code}"
  | zeroNumber => "invalid tag value: 0"
  | unexpectedWireType found expected =>
    s!"invalid wire type: {found.name} (expected {expected.name})"
  | underflow => "buffer underflow"
  | notUtf8 => "invalid string value: data is not UTF-8 encoded"
  | lengthExceeded => "delimited length exceeded"
  | strayGroupEnd => "unexpected end group tag"
  | tooDeep => "recursion limit reached"

/-- A fault and the fields that were being read when it was found, as message and field names with
the innermost first. -/
structure Malformed where
  /-- The fields being read. -/
  context : List (String × String)
  /-- What is wrong. -/
  fault : Fault
  deriving DecidableEq, Repr

/-- The wording of a fault after the fields in which it was found. -/
def Malformed.message (m : Malformed) : String :=
  "failed to decode Protobuf message: " ++
    String.join (m.context.map fun f => s!"{f.1}.{f.2}: ") ++ m.fault.message

end BuildPackage.Wire
