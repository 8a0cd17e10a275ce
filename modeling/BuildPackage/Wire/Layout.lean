import BuildPackage.Wire.Message
import BuildPackage.Wire.Schema

set_option relaxedAutoImplicit false
set_option autoImplicit false

/-!
# The layout of package messages

The numbers and kinds of the fields of every record of a package message, and with them the bytes of
a message. Both enumerations with a default, the kind of a payload and the kind of an event, have
the default one.

## Main definitions

* `BuildPackage.Wire.Package.encode` — the bytes of a message.
* `BuildPackage.Wire.Package.decode` — the message of some bytes.
-/

namespace BuildPackage.Wire

/-- The layout of `Location`. -/
def Location.schema : Schema Location where
  name := "Location"
  blank := {}
  fields := [
    .optional 1 "start_offset" .int32
      ⟨Location.startOffset, fun v m => { m with startOffset := v }⟩,
    .optional 2 "start_line" .int32 ⟨Location.startLine, fun v m => { m with startLine := v }⟩,
    .optional 3 "start_column" .int32
      ⟨Location.startColumn, fun v m => { m with startColumn := v }⟩,
    .optional 4 "end_offset" .int32 ⟨Location.endOffset, fun v m => { m with endOffset := v }⟩,
    .optional 5 "end_line" .int32 ⟨Location.endLine, fun v m => { m with endLine := v }⟩,
    .optional 6 "end_column" .int32 ⟨Location.endColumn, fun v m => { m with endColumn := v }⟩]

/-- The layout of `License`. -/
def License.schema : Schema License where
  name := "License"
  blank := {}
  fields := [
    .repeated 1 "license_type" .string ⟨License.types, fun v m => { m with types := v }⟩,
    .repeated 2 "exception" .string ⟨License.exceptions, fun v m => { m with exceptions := v }⟩]

/-- The layout of `StringDictEntry`. -/
def StringDictEntry.schema : Schema StringDictEntry where
  name := "StringDictEntry"
  blank := {}
  fields := [
    .plain 1 "key" .string "" ⟨StringDictEntry.key, fun v m => { m with key := v }⟩,
    .plain 2 "value" .string "" ⟨StringDictEntry.value, fun v m => { m with value := v }⟩]

/-- The layout of `LabelListDictEntry`. -/
def LabelListDictEntry.schema : Schema LabelListDictEntry where
  name := "LabelListDictEntry"
  blank := {}
  fields := [
    .plain 1 "key" .string "" ⟨LabelListDictEntry.key, fun v m => { m with key := v }⟩,
    .repeated 2 "value" .string ⟨LabelListDictEntry.labels, fun v m => { m with labels := v }⟩]

/-- The layout of `StringListDictEntry`. -/
def StringListDictEntry.schema : Schema StringListDictEntry where
  name := "StringListDictEntry"
  blank := {}
  fields := [
    .plain 1 "key" .string "" ⟨StringListDictEntry.key, fun v m => { m with key := v }⟩,
    .repeated 2 "value" .string ⟨StringListDictEntry.strings, fun v m => { m with strings := v }⟩]

/-- The layout of `GlobCriteria`. -/
def GlobCriteria.schema : Schema GlobCriteria where
  name := "GlobCriteria"
  blank := {}
  fields := [
    .repeated 1 "include" .string ⟨GlobCriteria.included, fun v m => { m with included := v }⟩,
    .repeated 2 "exclude" .string ⟨GlobCriteria.excluded, fun v m => { m with excluded := v }⟩,
    .optional 3 "glob" .bool ⟨GlobCriteria.isGlob, fun v m => { m with isGlob := v }⟩]

/-- The layout of `FilesetEntry`. -/
def FilesetEntry.schema : Schema FilesetEntry where
  name := "FilesetEntry"
  blank := {}
  fields := [
    .plain 1 "source" .string "" ⟨FilesetEntry.source, fun v m => { m with source := v }⟩,
    .plain 2 "destination_directory" .string ""
      ⟨FilesetEntry.destinationDirectory, fun v m => { m with destinationDirectory := v }⟩,
    .repeated 3 "file" .string ⟨FilesetEntry.files, fun v m => { m with files := v }⟩,
    .repeated 4 "exclude" .string ⟨FilesetEntry.excluded, fun v m => { m with excluded := v }⟩,
    .optional 5 "symlink_behavior" .int32
      ⟨FilesetEntry.symlinkBehavior, fun v m => { m with symlinkBehavior := v }⟩,
    .optional 6 "strip_prefix" .string
      ⟨FilesetEntry.stripPrefix, fun v m => { m with stripPrefix := v }⟩,
    .optional 7 "files_present" .bool
      ⟨FilesetEntry.filesPresent, fun v m => { m with filesPresent := v }⟩]

/-- The layout of `Attribute`. -/
def Attribute.schema : Schema Attribute where
  name := "Attribute"
  blank := {}
  fields := [
    .plain 1 "name" .string "" ⟨Attribute.name, fun v m => { m with name := v }⟩,
    .plain 2 "r#type" .int32 1
      ⟨Attribute.discriminator, fun v m => { m with discriminator := v }⟩,
    .optional 3 "int_value" .int32 ⟨Attribute.integer, fun v m => { m with integer := v }⟩,
    .message 4 "license" License.schema ⟨Attribute.license, fun v m => { m with license := v }⟩,
    .optional 5 "string_value" .string ⟨Attribute.string, fun v m => { m with string := v }⟩,
    .repeated 6 "string_list_value" .string
      ⟨Attribute.strings, fun v m => { m with strings := v }⟩,
    .messages 7 "string_dict_value" StringDictEntry.schema
      ⟨Attribute.stringDict, fun v m => { m with stringDict := v }⟩,
    .messages 8 "fileset_list_value" FilesetEntry.schema
      ⟨Attribute.filesetEntries, fun v m => { m with filesetEntries := v }⟩,
    .messages 9 "label_list_dict_value" LabelListDictEntry.schema
      ⟨Attribute.labelListDict, fun v m => { m with labelListDict := v }⟩,
    .messages 10 "string_list_dict_value" StringListDictEntry.schema
      ⟨Attribute.stringListDict, fun v m => { m with stringListDict := v }⟩,
    .message 12 "parseable_location" Location.schema
      ⟨Attribute.location, fun v m => { m with location := v }⟩,
    .optional 13 "explicitly_specified" .bool
      ⟨Attribute.explicit, fun v m => { m with explicit := v }⟩,
    .optional 14 "boolean_value" .bool ⟨Attribute.boolean, fun v m => { m with boolean := v }⟩,
    .messages 16 "glob_criteria" GlobCriteria.schema
      ⟨Attribute.globCriteria, fun v m => { m with globCriteria := v }⟩]

/-- The layout of `Rule`. -/
def Rule.schema : Schema Rule where
  name := "Rule"
  blank := {}
  fields := [
    .plain 1 "name" .string "" ⟨Rule.name, fun v m => { m with name := v }⟩,
    .plain 2 "rule_class" .string "" ⟨Rule.ruleClass, fun v m => { m with ruleClass := v }⟩,
    .messages 4 "attribute" Attribute.schema
      ⟨Rule.attributes, fun v m => { m with attributes := v }⟩,
    .message 8 "parseable_location" Location.schema
      ⟨Rule.location, fun v m => { m with location := v }⟩]

/-- The layout of `SourceFile`. -/
def SourceFile.schema : Schema SourceFile where
  name := "SourceFile"
  blank := {}
  fields := [
    .plain 1 "name" .string "" ⟨SourceFile.name, fun v m => { m with name := v }⟩,
    .repeated 5 "visibility_label" .string
      ⟨SourceFile.visibility, fun v m => { m with visibility := v }⟩,
    .message 7 "parseable_location" Location.schema
      ⟨SourceFile.location, fun v m => { m with location := v }⟩,
    .message 8 "license" License.schema ⟨SourceFile.license, fun v m => { m with license := v }⟩]

/-- The layout of `PackageGroup`. -/
def PackageGroup.schema : Schema PackageGroup where
  name := "PackageGroup"
  blank := {}
  fields := [
    .plain 1 "name" .string "" ⟨PackageGroup.name, fun v m => { m with name := v }⟩,
    .repeated 2 "contained_package" .string
      ⟨PackageGroup.contained, fun v m => { m with contained := v }⟩,
    .repeated 3 "included_package_group" .string
      ⟨PackageGroup.included, fun v m => { m with included := v }⟩,
    .message 4 "parseable_location" Location.schema
      ⟨PackageGroup.location, fun v m => { m with location := v }⟩]

/-- The layout of `MakeVarBinding`. -/
def MakeVarBinding.schema : Schema MakeVarBinding where
  name := "MakeVarBinding"
  blank := {}
  fields := [
    .plain 1 "value" .string "" ⟨MakeVarBinding.value, fun v m => { m with value := v }⟩,
    .plain 2 "platform_set_regexp" .string ""
      ⟨MakeVarBinding.platform, fun v m => { m with platform := v }⟩]

/-- The layout of `MakeVar`. -/
def MakeVar.schema : Schema MakeVar where
  name := "MakeVar"
  blank := {}
  fields := [
    .plain 1 "name" .string "" ⟨MakeVar.name, fun v m => { m with name := v }⟩,
    .messages 2 "binding" MakeVarBinding.schema
      ⟨MakeVar.bindings, fun v m => { m with bindings := v }⟩]

/-- The layout of `Event`. -/
def Event.schema : Schema Event where
  name := "Event"
  blank := {}
  fields := [
    .plain 1 "kind" .int32 1 ⟨Event.kind, fun v m => { m with kind := v }⟩,
    .message 2 "location" Location.schema ⟨Event.location, fun v m => { m with location := v }⟩,
    .plain 3 "message" .string "" ⟨Event.message, fun v m => { m with message := v }⟩]

/-- The layout of `Package`. -/
def Package.schema : Schema Package where
  name := "Package"
  blank := {}
  fields := [
    .plain 1 "name" .string "" ⟨Package.name, fun v m => { m with name := v }⟩,
    .optional 3 "default_visibility_set" .bool
      ⟨Package.defaultVisibilitySet, fun v m => { m with defaultVisibilitySet := v }⟩,
    .repeated 4 "default_visibility_label" .string
      ⟨Package.defaultVisibility, fun v m => { m with defaultVisibility := v }⟩,
    .optional 5 "default_obsolete" .bool
      ⟨Package.defaultObsolete, fun v m => { m with defaultObsolete := v }⟩,
    .optional 6 "default_testonly" .bool
      ⟨Package.defaultTestonly, fun v m => { m with defaultTestonly := v }⟩,
    .optional 7 "default_deprecation" .string
      ⟨Package.defaultDeprecation, fun v m => { m with defaultDeprecation := v }⟩,
    .message 10 "default_license" License.schema
      ⟨Package.defaultLicense, fun v m => { m with defaultLicense := v }⟩,
    .repeated 11 "default_distrib" .string
      ⟨Package.defaultDistributions, fun v m => { m with defaultDistributions := v }⟩,
    .repeated 12 "subinclude_label" .string
      ⟨Package.subincludes, fun v m => { m with subincludes := v }⟩,
    .messages 13 "make_variable" MakeVar.schema
      ⟨Package.makeVariables, fun v m => { m with makeVariables := v }⟩,
    .messages 14 "source_file" SourceFile.schema
      ⟨Package.sourceFiles, fun v m => { m with sourceFiles := v }⟩,
    .messages 15 "package_group" PackageGroup.schema
      ⟨Package.packageGroups, fun v m => { m with packageGroups := v }⟩,
    .messages 16 "rule" Rule.schema ⟨Package.rules, fun v m => { m with rules := v }⟩,
    .messages 17 "event" Event.schema ⟨Package.events, fun v m => { m with events := v }⟩,
    .optional 18 "contains_errors" .bool
      ⟨Package.containsErrors, fun v m => { m with containsErrors := v }⟩]

/-- How deeply messages and groups may be nested. -/
def depthLimit : Nat := 100

/-- The bytes of a package message. -/
def Package.encode (m : Package) : ByteArray := ⟨(Package.schema.write m).toArray⟩

/-- The package message of some bytes. -/
def Package.decode (data : ByteArray) : Except Malformed Package :=
  match Package.schema.readFields depthLimit 0 {} (.start data) with
  | .error e => .error e
  | .ok s => .ok s.value

end BuildPackage.Wire
