import BuildPackage.Package.OfWire
import BuildPackage.Proofs.Wire.Layout

set_option relaxedAutoImplicit false
set_option autoImplicit false

/-!
# Packages from bytes

Nothing of a package message is lost in its bytes: they are read as the message that they were
written for. So a message can be told from its bytes, and decoding the bytes is decoding the message.

## Main results

* `BuildPackage.readMessage_encode` — messages survive as bytes.
-/

namespace BuildPackage

/-- A message whose bytes are not too many is read again from them. No other message has the same
bytes, and decoding the bytes is the same inquiry as decoding the message, whether it succeeds or
fails.

**Proof sketch.** A message with the same bytes has as many of them, so it is read again from them
as well, and reading gives one message only. -/
theorem readMessage_encode (m : Wire.Package) (h : m.encode.size ≤ maxMessageSize) :
    readMessage m.encode = .ok m ∧
      (∀ m' : Wire.Package, m'.encode = m.encode ↔ m' = m) ∧
        ∀ registry, Package.ofBytes registry m.encode = Package.ofWire registry m := by
  have hread : ∀ m' : Wire.Package, m'.encode.size ≤ maxMessageSize →
      readMessage m'.encode = .ok m' := by
    intro m' h'
    have hsize : m'.encode.size < 2 ^ 64 := Nat.lt_of_le_of_lt h' (by decide)
    rw [readMessage, if_neg (Nat.not_lt.2 h'), Wire.Package.decode_encode m' hsize]
    rfl
  refine ⟨hread m h, fun m' => ⟨fun hencode => ?_, fun hm => ?_⟩, fun registry => ?_⟩
  · have hm' := hread m' (by rwa [hencode])
    rw [hencode, hread m h] at hm'
    exact (Except.ok.inj hm').symm
  · rw [hm]
  · rw [Package.ofBytes, hread m h]
    rfl

/-- A message with every kind of field: negative numbers, numbers outside their enumeration, optional
values that are there although they are the default ones, and records nested three deep. -/
theorem readMessage_encode_of_nested :
    let location : Wire.Location := { startOffset := some 0, startLine := some (-1) }
    let entry : Wire.FilesetEntry := { source := "//a:b", symlinkBehavior := some 0 }
    let attributes : List Wire.Attribute := [
      { name := "n", discriminator := 0, integer := some (-2147483648), string := some "" },
      { name := "f", discriminator := 11, filesetEntries := [entry, entry] },
      { name := "d", stringDict := [⟨"k", ""⟩, ⟨"k", "v"⟩], boolean := some false }]
    let m : Wire.Package := {
      name := "app"
      containsErrors := some false
      sourceFiles := [{ name := "//app:ä.c", location := some location, license := some {} }]
      rules := [{ name := "//app:main", ruleClass := "binary", attributes }]
      events := [{ kind := 99, message := "" }] }
    m.encode.size ≤ maxMessageSize ∧ readMessage m.encode = .ok m ∧
      (∀ m' : Wire.Package, m'.encode = m.encode ↔ m' = m) ∧
        ∀ registry, Package.ofBytes registry m.encode = Package.ofWire registry m := by
  intro location entry attributes m
  have hsize : m.encode.size ≤ maxMessageSize := by decide +kernel
  exact ⟨hsize, readMessage_encode m hsize⟩

end BuildPackage
