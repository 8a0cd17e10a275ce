import BuildPackage.Proofs.Wire.Schema
import BuildPackage.Wire.Layout

set_option relaxedAutoImplicit false
set_option autoImplicit false

/-!
# Round trips of package messages

Every record of a package message round-trips, the leaves first and then the records that they are
nested in. For each of them it is enough to go through its fields: each carries its part into the
record that the fields before it have filled so far.

## Main results

* `BuildPackage.Wire.Package.decode_encode` — a package message is read again from its bytes.
-/

namespace BuildPackage.Wire

open Scalar

lemma Location.roundTrips : Location.schema.RoundTrips 0 :=
  .of_carried (by decide) (by decide) fun _ _ _ =>
    .cons (.optional roundTrips_int32 rfl) <|
    .cons (.optional roundTrips_int32 rfl) <|
    .cons (.optional roundTrips_int32 rfl) <|
    .cons (.optional roundTrips_int32 rfl) <|
    .cons (.optional roundTrips_int32 rfl) <|
    .cons (.optional roundTrips_int32 rfl) <|
    .nil _

lemma License.roundTrips : License.schema.RoundTrips 0 :=
  .of_carried (by decide) (by decide) fun _ _ _ =>
    .cons (.repeated roundTrips_string ⟨rfl, fun _ => rfl, fun _ _ => rfl⟩) <|
    .cons (.repeated roundTrips_string ⟨rfl, fun _ => rfl, fun _ _ => rfl⟩) <|
    .nil _

lemma StringDictEntry.roundTrips : StringDictEntry.schema.RoundTrips 0 :=
  .of_carried (by decide) (by decide) fun _ _ _ =>
    .cons (.plain roundTrips_string rfl) <|
    .cons (.plain roundTrips_string rfl) <|
    .nil _

lemma LabelListDictEntry.roundTrips : LabelListDictEntry.schema.RoundTrips 0 :=
  .of_carried (by decide) (by decide) fun _ _ _ =>
    .cons (.plain roundTrips_string rfl) <|
    .cons (.repeated roundTrips_string ⟨rfl, fun _ => rfl, fun _ _ => rfl⟩) <|
    .nil _

lemma StringListDictEntry.roundTrips : StringListDictEntry.schema.RoundTrips 0 :=
  .of_carried (by decide) (by decide) fun _ _ _ =>
    .cons (.plain roundTrips_string rfl) <|
    .cons (.repeated roundTrips_string ⟨rfl, fun _ => rfl, fun _ _ => rfl⟩) <|
    .nil _

lemma GlobCriteria.roundTrips : GlobCriteria.schema.RoundTrips 0 :=
  .of_carried (by decide) (by decide) fun _ _ _ =>
    .cons (.repeated roundTrips_string ⟨rfl, fun _ => rfl, fun _ _ => rfl⟩) <|
    .cons (.repeated roundTrips_string ⟨rfl, fun _ => rfl, fun _ _ => rfl⟩) <|
    .cons (.optional roundTrips_bool rfl) <|
    .nil _

lemma FilesetEntry.roundTrips : FilesetEntry.schema.RoundTrips 0 :=
  .of_carried (by decide) (by decide) fun _ _ _ =>
    .cons (.plain roundTrips_string rfl) <|
    .cons (.plain roundTrips_string rfl) <|
    .cons (.repeated roundTrips_string ⟨rfl, fun _ => rfl, fun _ _ => rfl⟩) <|
    .cons (.repeated roundTrips_string ⟨rfl, fun _ => rfl, fun _ _ => rfl⟩) <|
    .cons (.optional roundTrips_int32 rfl) <|
    .cons (.optional roundTrips_string rfl) <|
    .cons (.optional roundTrips_bool rfl) <|
    .nil _

lemma Attribute.roundTrips : Attribute.schema.RoundTrips 1 :=
  .of_carried (by decide) (by decide) fun _ _ hdepth =>
    .cons (.plain roundTrips_string rfl) <|
    .cons (.plain roundTrips_int32 rfl) <|
    .cons (.optional roundTrips_int32 rfl) <|
    .cons (.message License.roundTrips hdepth rfl rfl) <|
    .cons (.optional roundTrips_string rfl) <|
    .cons (.repeated roundTrips_string ⟨rfl, fun _ => rfl, fun _ _ => rfl⟩) <|
    .cons (.messages StringDictEntry.roundTrips hdepth ⟨rfl, fun _ => rfl, fun _ _ => rfl⟩) <|
    .cons (.messages FilesetEntry.roundTrips hdepth ⟨rfl, fun _ => rfl, fun _ _ => rfl⟩) <|
    .cons (.messages LabelListDictEntry.roundTrips hdepth ⟨rfl, fun _ => rfl, fun _ _ => rfl⟩) <|
    .cons (.messages StringListDictEntry.roundTrips hdepth ⟨rfl, fun _ => rfl, fun _ _ => rfl⟩) <|
    .cons (.message Location.roundTrips hdepth rfl rfl) <|
    .cons (.optional roundTrips_bool rfl) <|
    .cons (.optional roundTrips_bool rfl) <|
    .cons (.messages GlobCriteria.roundTrips hdepth ⟨rfl, fun _ => rfl, fun _ _ => rfl⟩) <|
    .nil _

lemma Rule.roundTrips : Rule.schema.RoundTrips 2 :=
  .of_carried (by decide) (by decide) fun _ _ hdepth =>
    .cons (.plain roundTrips_string rfl) <|
    .cons (.plain roundTrips_string rfl) <|
    .cons (.messages Attribute.roundTrips hdepth ⟨rfl, fun _ => rfl, fun _ _ => rfl⟩) <|
    .cons (.message Location.roundTrips (by omega) rfl rfl) <|
    .nil _

lemma SourceFile.roundTrips : SourceFile.schema.RoundTrips 1 :=
  .of_carried (by decide) (by decide) fun _ _ hdepth =>
    .cons (.plain roundTrips_string rfl) <|
    .cons (.repeated roundTrips_string ⟨rfl, fun _ => rfl, fun _ _ => rfl⟩) <|
    .cons (.message Location.roundTrips hdepth rfl rfl) <|
    .cons (.message License.roundTrips hdepth rfl rfl) <|
    .nil _

lemma PackageGroup.roundTrips : PackageGroup.schema.RoundTrips 1 :=
  .of_carried (by decide) (by decide) fun _ _ hdepth =>
    .cons (.plain roundTrips_string rfl) <|
    .cons (.repeated roundTrips_string ⟨rfl, fun _ => rfl, fun _ _ => rfl⟩) <|
    .cons (.repeated roundTrips_string ⟨rfl, fun _ => rfl, fun _ _ => rfl⟩) <|
    .cons (.message Location.roundTrips hdepth rfl rfl) <|
    .nil _

lemma MakeVarBinding.roundTrips : MakeVarBinding.schema.RoundTrips 0 :=
  .of_carried (by decide) (by decide) fun _ _ _ =>
    .cons (.plain roundTrips_string rfl) <|
    .cons (.plain roundTrips_string rfl) <|
    .nil _

lemma MakeVar.roundTrips : MakeVar.schema.RoundTrips 1 :=
  .of_carried (by decide) (by decide) fun _ _ hdepth =>
    .cons (.plain roundTrips_string rfl) <|
    .cons (.messages MakeVarBinding.roundTrips hdepth ⟨rfl, fun _ => rfl, fun _ _ => rfl⟩) <|
    .nil _

lemma Event.roundTrips : Event.schema.RoundTrips 1 :=
  .of_carried (by decide) (by decide) fun _ _ hdepth =>
    .cons (.plain roundTrips_int32 rfl) <|
    .cons (.message Location.roundTrips hdepth rfl rfl) <|
    .cons (.plain roundTrips_string rfl) <|
    .nil _

lemma Package.roundTrips : Package.schema.RoundTrips 3 :=
  .of_carried (by decide) (by decide) fun _ _ hdepth =>
    .cons (.plain roundTrips_string rfl) <|
    .cons (.optional roundTrips_bool rfl) <|
    .cons (.repeated roundTrips_string ⟨rfl, fun _ => rfl, fun _ _ => rfl⟩) <|
    .cons (.optional roundTrips_bool rfl) <|
    .cons (.optional roundTrips_bool rfl) <|
    .cons (.optional roundTrips_string rfl) <|
    .cons (.message License.roundTrips (by omega) rfl rfl) <|
    .cons (.repeated roundTrips_string ⟨rfl, fun _ => rfl, fun _ _ => rfl⟩) <|
    .cons (.repeated roundTrips_string ⟨rfl, fun _ => rfl, fun _ _ => rfl⟩) <|
    .cons (.messages MakeVar.roundTrips (by omega) ⟨rfl, fun _ => rfl, fun _ _ => rfl⟩) <|
    .cons (.messages SourceFile.roundTrips (by omega) ⟨rfl, fun _ => rfl, fun _ _ => rfl⟩) <|
    .cons (.messages PackageGroup.roundTrips (by omega) ⟨rfl, fun _ => rfl, fun _ _ => rfl⟩) <|
    .cons (.messages Rule.roundTrips hdepth ⟨rfl, fun _ => rfl, fun _ _ => rfl⟩) <|
    .cons (.messages Event.roundTrips (by omega) ⟨rfl, fun _ => rfl, fun _ _ => rfl⟩) <|
    .cons (.optional roundTrips_bool rfl) <|
    .nil _

/-- A package message is read again from its bytes, as long as a length of 64 bits can count them.

**Proof sketch.** The fields of a package are passed over up to the end of the bytes, which is where
reading them stops. The depth of nesting that is allowed is more than packages need. -/
theorem Package.decode_encode (m : Package) (h : m.encode.size < 2 ^ 64) :
    Package.decode m.encode = .ok m := by
  have hpasses := Package.roundTrips m depthLimit (by decide) h
  have hunread : (Cursor.start m.encode).unread = Package.schema.write m ++ [] :=
    (List.append_nil _).symm
  obtain ⟨t, ht, hvalue, -⟩ := hpasses.readFields_eq_ok hunread
  have hread : Package.schema.readFields depthLimit 0 {} (.start m.encode) = .ok t := ht
  rw [Package.decode, hread]
  exact congrArg Except.ok hvalue

end BuildPackage.Wire
