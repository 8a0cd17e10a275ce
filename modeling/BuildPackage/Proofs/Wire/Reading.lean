import BuildPackage.Wire.Schema
import Mathlib.Algebra.Group.Nat.Defs
import Mathlib.Data.List.Basic

set_option relaxedAutoImplicit false
set_option autoImplicit false

/-!
# Reading what was written

A reader gives back a value that was written if it takes the bytes of the value off the front,
whatever bytes follow. Readers that do so one after another do so together. The lemmas here go from
single bytes over numbers and keys to the values of fields.

## Main definitions

* `BuildPackage.Wire.Reader.Takes` — a reader takes some bytes and makes a value of them.
* `BuildPackage.Wire.Scalar.RoundTrips` — every value that is written is read again.

## Main results

* `BuildPackage.Wire.takes_readVarint` — numbers of up to 64 bits.
* `BuildPackage.Wire.takes_readKey` — keys of up to 32 bits.
* `BuildPackage.Wire.Scalar.roundTrips_int32`, `BuildPackage.Wire.Scalar.roundTrips_bool`,
  `BuildPackage.Wire.Scalar.roundTrips_string` — the values of fields.
-/

namespace BuildPackage.Wire

/-! ## Readers -/

namespace Reader

variable {α β : Type} {r : Reader α} {f : α → Reader β} {a : α} {b : β} {bs bs' : List UInt8}

/-- A reader takes some bytes off the front of whatever is unread and makes a value of them. -/
def Takes (r : Reader α) (bs : List UInt8) (a : α) : Prop :=
  ∀ (c : Cursor) (tail : List UInt8), c.unread = bs ++ tail →
    ∃ s, r c = .ok s ∧ s.value = a ∧ s.rest.unread = tail

lemma takes_pure (a : α) : (Pure.pure a : Reader α).Takes [] a :=
  fun c _ hc => ⟨⟨a, c, c.remaining_le_self⟩, rfl, rfl, hc⟩

/-- A sequence of two readers that succeed. -/
lemma bind_eq_ok {c : Cursor} {s : Step α c} {t : Step β s.rest} (hs : r c = .ok s)
    (ht : f s.value s.rest = .ok t) :
    (r >>= f) c = .ok ⟨t.value, t.rest, Nat.le_trans t.le s.le⟩ := by
  change r.bind f c = _
  simp only [Reader.bind, hs, ht]

/-- What follows the count of the unread bytes reads from the same place. -/
lemma bind_remaining (g : Nat → Reader β) (c : Cursor) :
    (remaining >>= g) c = g c.remaining c := by
  change remaining.bind g c = _
  simp only [Reader.bind, remaining]
  cases g c.remaining c <;> rfl

/-- Two readers take their bytes one after the other. -/
lemma Takes.bind (hr : r.Takes bs a) (hf : (f a).Takes bs' b) :
    (r >>= f).Takes (bs ++ bs') b := by
  intro c tail hc
  obtain ⟨s, hs, rfl, hrest⟩ := hr c (bs' ++ tail) (by rw [hc, List.append_assoc])
  obtain ⟨t, ht, rfl, htail⟩ := hf s.rest tail hrest
  exact ⟨_, bind_eq_ok hs ht, rfl, htail⟩

/-- What follows may take nothing. -/
lemma Takes.andThen (hr : r.Takes bs a) (hf : (f a).Takes [] b) : (r >>= f).Takes bs b := by
  have h := hr.bind hf
  rwa [List.append_nil] at h

lemma Takes.map (g : α → β) (hr : r.Takes bs a) : (g <$> r).Takes bs (g a) :=
  hr.andThen (takes_pure (g a))

/-- What is read is the same in a named field. -/
lemma Takes.within (message field : String) (hr : r.Takes bs a) :
    (r.within message field).Takes bs a := by
  intro c tail hc
  obtain ⟨s, hs, h⟩ := hr c tail hc
  refine ⟨s, ?_, h⟩
  simp only [Reader.within, hs]

lemma takes_byte (b : UInt8) : byte.Takes [b] b := by
  intro c tail hc
  have hlength : c.remaining = tail.length + 1 := by
    rw [← c.length_unread, hc]
    simp
  have hposition : c.position < c.data.size := by
    rw [Cursor.remaining] at hlength
    omega
  rw [Cursor.unread, List.drop_eq_getElem_cons (by exact hposition), List.singleton_append,
    List.cons.injEq] at hc
  refine ⟨⟨c.data[c.position], c.advance 1 (by omega), ?_⟩, dif_pos hposition, hc.1, hc.2⟩
  rw [Cursor.remaining_advance]
  omega

/-- As many bytes as some data has are taken as that data. -/
lemma takes_bytes (data : ByteArray) :
    (bytes data.data.toList.length).Takes data.data.toList data := by
  intro c tail hc
  have hlength : data.data.toList.length ≤ c.remaining := by
    rw [← c.length_unread, hc, List.length_append]
    omega
  have hdata : c.data.extract c.position (c.position + data.data.toList.length) = data := by
    refine ByteArray.ext (Array.toList_inj.1 ?_)
    rw [ByteArray.data_extract, Array.toList_extract, List.extract_eq_take_drop,
      Nat.add_sub_cancel_left]
    change c.unread.take data.data.toList.length = data.data.toList
    rw [hc, List.take_left]
  refine ⟨_, dif_pos hlength, hdata, ?_⟩
  rw [Cursor.unread_advance, hc, List.drop_left]

end Reader

/-! ## Numbers -/

lemma length_varint_pos (n : Nat) : 0 < (varint n).length := by
  rw [varint]
  split_ifs <;> simp

/-- A number is read again by a reader that allows for as many bytes as it has.

**Proof sketch.** Induction on the bytes that are allowed. One byte holds the low seven bits, and
what is left has seven bits less. -/
lemma takes_readVarintUpTo {k n : Nat} (h : n < 2 ^ (7 * k + 1)) :
    (readVarintUpTo (k + 1)).Takes (varint n) n := by
  induction k generalizing n with
  | zero =>
    have hn : n < 2 := by simpa using h
    have hbyte : (UInt8.ofNat n).toNat = n := by
      rw [UInt8.toNat_ofNat']
      omega
    rw [varint, if_pos (by omega), readVarintUpTo]
    refine (Reader.takes_byte _).andThen ?_
    rw [hbyte, if_neg (by omega), if_pos (by omega)]
    exact Reader.takes_pure n
  | succ k ih =>
    rw [varint, readVarintUpTo]
    by_cases hn : n < 128
    · have hbyte : (UInt8.ofNat n).toNat = n := by
        rw [UInt8.toNat_ofNat']
        omega
      rw [if_pos hn]
      refine (Reader.takes_byte _).andThen ?_
      rw [hbyte, if_neg (by omega), if_pos hn]
      exact Reader.takes_pure n
    · have hbyte : (UInt8.ofNat (n % 128 + 128)).toNat = n % 128 + 128 := by
        rw [UInt8.toNat_ofNat']
        omega
      have hdiv : n / 128 < 2 ^ (7 * k + 1) := by
        rw [Nat.div_lt_iff_lt_mul (by omega)]
        calc n < 2 ^ (7 * k + 1 + 7) := h
          _ = 2 ^ (7 * k + 1) * 128 := Nat.pow_add ..
      have hvalue : (n % 128 + 128) % 128 + 128 * (n / 128) = n := by omega
      rw [if_neg hn, ← List.singleton_append]
      refine (Reader.takes_byte _).bind ?_
      rw [hbyte, if_neg (by omega), if_neg (by omega)]
      have hmap := (ih hdiv).map fun m => (n % 128 + 128) % 128 + 128 * m
      rwa [hvalue] at hmap

/-- Every number of 64 bits is read again. -/
theorem takes_readVarint {n : Nat} (h : n < 2 ^ 64) : readVarint.Takes (varint n) n :=
  takes_readVarintUpTo (k := 9) h

/-! ## Keys -/

/-- The number of a key stands for the key again, if the field number is neither zero nor too large.
-/
lemma Key.ofNat_eq_ok {k : Key} (hpos : 0 < k.number) (hlt : k.number < 2 ^ 29) :
    Key.ofNat (k.number * 8 + k.wireType.code) = .ok k := by
  have hcode : k.wireType.code < 8 := by cases k.wireType <;> decide
  have hmod : (k.number * 8 + k.wireType.code) % 8 = k.wireType.code := by omega
  have hdiv : (k.number * 8 + k.wireType.code) / 8 = k.number := by omega
  rw [Key.ofNat, if_neg (by omega), hmod, hdiv, WireType.ofCode?_code]
  exact if_neg (by omega)

/-- Every key of 32 bits is read again. -/
theorem takes_readKey {k : Key} (hpos : 0 < k.number) (hlt : k.number < 2 ^ 29) :
    readKey.Takes k.bytes k := by
  have hcode : k.wireType.code < 8 := by cases k.wireType <;> decide
  have hnumber : readVarint.Takes k.bytes (k.number * 8 + k.wireType.code) :=
    takes_readVarint (by omega)
  refine hnumber.andThen ?_
  rw [Key.ofNat_eq_ok hpos hlt]
  exact Reader.takes_pure k

lemma Key.length_bytes_pos (k : Key) : 0 < k.bytes.length := length_varint_pos _

/-! ## Values -/

namespace Scalar

/-- Every value is read again from its bytes, as long as a length of 64 bits can count them. -/
def RoundTrips {α : Type} (s : Scalar α) : Prop :=
  ∀ a, (s.write a).length < 2 ^ 64 → s.read.Takes (s.write a) a

/-- A signed number has the same low 32 bits as the number of 64 bits that is written for it. -/
lemma int32_ofNat_extended (n : Int32) :
    Int32.ofNat (n.toInt % 0x10000000000000000).toNat = n := by
  have hmod : ((n.toInt % 0x10000000000000000).toNat : Int) = n.toInt % 0x10000000000000000 :=
    Int.toNat_of_nonneg (by omega)
  have hle := n.le_toInt
  have hlt := n.toInt_lt
  rw [← Int32.toInt_inj, Int32.toInt_ofNat', hmod, Int.bmod_def, Int32.size]
  omega

theorem roundTrips_int32 : int32.RoundTrips := by
  intro n _
  have hread : readVarint.Takes (int32.write n) (n.toInt % 0x10000000000000000).toNat :=
    takes_readVarint (by omega)
  have hmap := hread.map Int32.ofNat
  rwa [int32_ofNat_extended] at hmap

theorem roundTrips_bool : bool.RoundTrips := by
  intro b _
  have hread : readVarint.Takes (bool.write b) b.toNat :=
    takes_readVarint (by cases b <;> decide)
  have hmap := hread.map (· != 0)
  have hb : (b.toNat != 0) = b := by cases b <;> rfl
  rwa [hb] at hmap

/-- A text is read again because the bytes that are written for it are UTF-8. -/
theorem roundTrips_string : string.RoundTrips := by
  intro s hs
  have hlength : s.toUTF8.data.toList.length < 2 ^ 64 := by
    simp only [string, delimited, List.length_append] at hs
    omega
  have hutf8 : String.fromUTF8? s.toUTF8 = some s := dif_pos s.isValidUTF8
  refine (takes_readVarint hlength).bind ?_
  refine (Reader.takes_bytes s.toUTF8).andThen ?_
  rw [hutf8]
  exact Reader.takes_pure s

end Scalar

end BuildPackage.Wire
