import BuildPackage.Wire.Reader

set_option relaxedAutoImplicit false
set_option autoImplicit false

/-!
# Base-128 numbers

A number is written with seven bits to a byte, lowest first; the high bit of a byte says that more
follow. A number has at most 64 bits, so at most ten bytes, the tenth of which is zero or one. A
form with needless zero bytes at its end is read as well.

## Main definitions

* `BuildPackage.Wire.varint` — the bytes of a number.
* `BuildPackage.Wire.readVarint` — reads a number.
* `BuildPackage.Wire.delimited` — bytes after their length.
-/

namespace BuildPackage.Wire

/-- The bytes of a number. -/
def varint (n : Nat) : List UInt8 :=
  if n < 128 then [UInt8.ofNat n] else UInt8.ofNat (n % 128 + 128) :: varint (n / 128)

/-- Reads a number of at most the given number of bytes, the last of which holds one bit. -/
def readVarintUpTo : Nat → Reader Nat
  | 0 => .fail .badVarint
  | n + 1 => do
    let b ← Reader.byte
    if n = 0 ∧ 2 ≤ b.toNat then .fail .badVarint
    else if b.toNat < 128 then return b.toNat
    else return b.toNat % 128 + 128 * (← readVarintUpTo n)

/-- Reads a number of up to 64 bits. -/
def readVarint : Reader Nat := readVarintUpTo 10

/-- Bytes after their length. -/
def delimited (payload : List UInt8) : List UInt8 := varint payload.length ++ payload

/-- A number takes at least one byte. -/
theorem remaining_lt_of_readVarint {c : Cursor} {s : Step Nat c} (h : readVarint c = .ok s) :
    s.rest.remaining < c.remaining := by
  rw [readVarint, readVarintUpTo] at h
  exact Reader.remaining_lt_of_bind (fun _ => Reader.remaining_lt_of_byte) h

end BuildPackage.Wire
