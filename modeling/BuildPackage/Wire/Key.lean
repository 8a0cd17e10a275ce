import BuildPackage.Wire.Varint

set_option relaxedAutoImplicit false
set_option autoImplicit false

/-!
# Keys

Each field of a message begins with a key, a number that holds the field number and the wire type
of the value. A reader that does not know a field passes over it by its wire type alone.

## Main definitions

* `BuildPackage.Wire.Key` — a field number and a wire type.
* `BuildPackage.Wire.readKey` — reads a key.
* `BuildPackage.Wire.skipField` — passes over the value of an unknown field.
-/

namespace BuildPackage.Wire

/-- The field number and the wire type before a value. -/
structure Key where
  /-- The field number. -/
  number : Nat
  /-- How the value is delimited. -/
  wireType : WireType
  deriving DecidableEq, Repr

/-- The bytes of a key. -/
def Key.bytes (k : Key) : List UInt8 := varint (k.number * 8 + k.wireType.code)

/-- The key that a number stands for. -/
def Key.ofNat (n : Nat) : Except Fault Key :=
  if 0x100000000 ≤ n then .error (.keyTooLarge n)
  else
    match WireType.ofCode? (n % 8) with
    | none => .error (.unknownWireType (n % 8))
    | some wireType => if n / 8 = 0 then .error .zeroNumber else .ok ⟨n / 8, wireType⟩

/-- Reads a key. -/
def readKey : Reader Key := do
  match Key.ofNat (← readVarint) with
  | .error fault => .fail fault
  | .ok key => return key

/-- A key takes at least one byte. -/
theorem remaining_lt_of_readKey {c : Cursor} {s : Step Key c} (h : readKey c = .ok s) :
    s.rest.remaining < c.remaining :=
  Reader.remaining_lt_of_bind (fun _ => remaining_lt_of_readVarint) h

/-- Passes over the fields of a group and over its end, which has the number of its start. -/
def skipGroup (skipValue : Key → Reader Unit) (number : Nat) : Reader Unit := fun c =>
  match h : readKey c with
  | .error e => .error e
  | .ok s =>
    if s.value.wireType = .endGroup then
      if s.value.number = number then .ok ⟨(), s.rest, s.le⟩ else .error ⟨[], .strayGroupEnd⟩
    else
      match skipValue s.value s.rest with
      | .error e => .error e
      | .ok t =>
        have := remaining_lt_of_readKey h
        have := t.le
        match skipGroup skipValue number t.rest with
        | .error e => .error e
        | .ok u => .ok ⟨(), u.rest, Nat.le_trans u.le (Nat.le_trans t.le s.le)⟩
termination_by c => c.remaining

/-- Passes over the value after a key, at a given depth of further nesting. -/
def skipField : Nat → Key → Reader Unit
  | 0, _ => .fail .tooDeep
  | depth + 1, key =>
    match key.wireType with
    | .varint => do
      let _ ← readVarint
      return ()
    | .sixtyFourBit => .skip 8
    | .lengthDelimited => do Reader.skip (← readVarint)
    | .startGroup => skipGroup (skipField depth) key.number
    | .endGroup => .fail .strayGroupEnd
    | .thirtyTwoBit => .skip 4

end BuildPackage.Wire
