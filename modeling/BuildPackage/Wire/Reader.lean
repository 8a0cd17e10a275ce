import BuildPackage.Wire.Malformed

set_option relaxedAutoImplicit false
set_option autoImplicit false

/-!
# Readers of bytes

A reader takes a value off the front of the unread bytes. It may fail, and it never gives bytes
back: that the unread bytes do not grow is part of what it returns, so a loop over a reader that
takes at least one byte comes to an end.

## Main definitions

* `BuildPackage.Wire.Cursor` — bytes with a position in them.
* `BuildPackage.Wire.Reader` — a function that takes a value off the unread bytes.
* `BuildPackage.Wire.Reader.byte` — takes one byte.
* `BuildPackage.Wire.Reader.bytes` — takes a number of bytes.
-/

namespace BuildPackage.Wire

/-! ## Cursors -/

/-- Bytes with a position in them. -/
structure Cursor where
  /-- All bytes. -/
  data : ByteArray
  /-- How many of them have been read. -/
  position : Nat
  /-- The position lies within the bytes. -/
  position_le : position ≤ data.size

namespace Cursor

/-- The start of some bytes. -/
def start (data : ByteArray) : Cursor := ⟨data, 0, Nat.zero_le _⟩

/-- How many bytes are unread. -/
def remaining (c : Cursor) : Nat := c.data.size - c.position

theorem remaining_le_self (c : Cursor) : c.remaining ≤ c.remaining := Nat.le_refl _

/-- The unread bytes. -/
def unread (c : Cursor) : List UInt8 := c.data.data.toList.drop c.position

theorem length_unread (c : Cursor) : c.unread.length = c.remaining := by
  simp [unread, remaining]

/-- The position after a number of unread bytes. -/
def advance (c : Cursor) (n : Nat) (h : n ≤ c.remaining) : Cursor where
  data := c.data
  position := c.position + n
  position_le := by
    have := c.position_le
    unfold remaining at h
    omega

theorem remaining_advance (c : Cursor) (n : Nat) (h : n ≤ c.remaining) :
    (c.advance n h).remaining = c.remaining - n := by
  simp only [advance, remaining]
  omega

theorem unread_advance (c : Cursor) (n : Nat) (h : n ≤ c.remaining) :
    (c.advance n h).unread = c.unread.drop n := by
  simp [advance, unread]

end Cursor

/-! ## Readers -/

/-- What a reader returns: a value and the cursor after it, which is not before the old one. -/
structure Step (α : Type) (c : Cursor) where
  /-- The value read. -/
  value : α
  /-- The cursor after it. -/
  rest : Cursor
  /-- No byte is given back. -/
  le : rest.remaining ≤ c.remaining

/-- A function that takes a value off the unread bytes or finds a fault. -/
def Reader (α : Type) : Type := (c : Cursor) → Except Malformed (Step α c)

namespace Reader

variable {α β : Type}

/-- Reads nothing. -/
def pure (a : α) : Reader α := fun c => .ok ⟨a, c, c.remaining_le_self⟩

/-- Reads one value and then another. -/
def bind (r : Reader α) (f : α → Reader β) : Reader β := fun c =>
  match r c with
  | .error e => .error e
  | .ok s =>
    match f s.value s.rest with
    | .error e => .error e
    | .ok t => .ok ⟨t.value, t.rest, Nat.le_trans t.le s.le⟩

instance : Monad Reader where
  pure := pure
  bind := bind

/-- Finds a fault. -/
def fail (fault : Fault) : Reader α := fun _ => .error ⟨[], fault⟩

/-- Names the field that a reader reads in the faults that it finds. -/
def within (message field : String) (r : Reader α) : Reader α := fun c =>
  match r c with
  | .error e => .error { e with context := e.context ++ [(message, field)] }
  | .ok s => .ok s

/-- How many bytes are unread. -/
def remaining : Reader Nat := fun c => .ok ⟨c.remaining, c, c.remaining_le_self⟩

/-- Takes one byte. A missing byte leaves a number unfinished. -/
def byte : Reader UInt8 := fun c =>
  if h : c.position < c.data.size then
    .ok ⟨c.data[c.position], c.advance 1 (by unfold Cursor.remaining; omega),
      by rw [Cursor.remaining_advance]; omega⟩
  else .error ⟨[], .badVarint⟩

/-- Takes a number of bytes. -/
def bytes (n : Nat) : Reader ByteArray := fun c =>
  if h : n ≤ c.remaining then
    .ok ⟨c.data.extract c.position (c.position + n), c.advance n h,
      by rw [Cursor.remaining_advance]; omega⟩
  else .error ⟨[], .underflow⟩

/-- Passes over a number of bytes. -/
def skip (n : Nat) : Reader Unit := fun c =>
  if h : n ≤ c.remaining then
    .ok ⟨(), c.advance n h, by rw [Cursor.remaining_advance]; omega⟩
  else .error ⟨[], .underflow⟩

theorem remaining_lt_of_byte {c : Cursor} {s : Step UInt8 c} (h : byte c = .ok s) :
    s.rest.remaining < c.remaining := by
  unfold byte at h
  split at h
  next hc =>
    obtain rfl := Except.ok.inj h
    simp only [Cursor.advance, Cursor.remaining]
    omega
  next => exact nomatch h

/-- What follows a reader that takes a byte has fewer bytes left. -/
theorem remaining_lt_of_bind {r : Reader α} {f : α → Reader β} {c : Cursor}
    (hr : ∀ s, r c = .ok s → s.rest.remaining < c.remaining) {t : Step β c}
    (h : (r >>= f) c = .ok t) : t.rest.remaining < c.remaining := by
  change r.bind f c = .ok t at h
  unfold bind at h
  split at h
  next => exact nomatch h
  next s hs =>
    split at h
    next => exact nomatch h
    next t' ht =>
      obtain rfl := Except.ok.inj h
      exact Nat.lt_of_le_of_lt t'.le (hr s hs)

end Reader

end BuildPackage.Wire
