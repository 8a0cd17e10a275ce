set_option relaxedAutoImplicit false
set_option autoImplicit false

/-!
# Package messages

A package as it travels between the evaluator of a build file and its readers: a tree of records
whose labels, licenses and enumerations are still strings and numbers. Nothing here is checked.

## Main definitions

* `BuildPackage.Wire.Package` — a whole message.
* `BuildPackage.Wire.Rule`, `BuildPackage.Wire.Attribute` — a rule and its attributes.
* `BuildPackage.Wire.SourceFile`, `BuildPackage.Wire.PackageGroup` — the other targets.
* `BuildPackage.Wire.Package.targets` — all targets of a message in their order.
-/

namespace BuildPackage.Wire

/-- A span of a build file, of which any part may be missing. -/
structure Location where
  /-- The byte offset of the first character. -/
  startOffset : Option Int32 := none
  /-- The line of the first character. -/
  startLine : Option Int32 := none
  /-- The column of the first character. -/
  startColumn : Option Int32 := none
  /-- The byte offset after the last character. -/
  endOffset : Option Int32 := none
  /-- The line of the last character. -/
  endLine : Option Int32 := none
  /-- The column of the last character. -/
  endColumn : Option Int32 := none
  deriving DecidableEq

/-- The tokens of a license and the labels excepted from it. -/
structure License where
  /-- The tokens. -/
  types : List String := []
  /-- The labels of the exceptions. -/
  exceptions : List String := []
  deriving DecidableEq

/-- A key with a string. -/
structure StringDictEntry where
  /-- The key. -/
  key : String := ""
  /-- The string. -/
  value : String := ""
  deriving DecidableEq

/-- A key with a list of labels. -/
structure LabelListDictEntry where
  /-- The key. -/
  key : String := ""
  /-- The labels. -/
  labels : List String := []
  deriving DecidableEq

/-- A key with a list of strings. -/
structure StringListDictEntry where
  /-- The key. -/
  key : String := ""
  /-- The strings. -/
  strings : List String := []
  deriving DecidableEq

/-- How a list was declared: item by item or by patterns. -/
structure GlobCriteria where
  /-- The items, or the patterns of what is in the list. -/
  included : List String := []
  /-- The patterns of what is not in the list. -/
  excluded : List String := []
  /-- Whether the strings are patterns. -/
  isGlob : Option Bool := none
  deriving DecidableEq

/-- One entry of a fileset. -/
structure FilesetEntry where
  /-- The label of the files' origin. -/
  source : String := ""
  /-- Where the files go. -/
  destinationDirectory : String := ""
  /-- The labels of the files. -/
  files : List String := []
  /-- The names that are left out. -/
  excluded : List String := []
  /-- The number of what happens to symbolic links. -/
  symlinkBehavior : Option Int32 := none
  /-- What is removed from the front of names. -/
  stripPrefix : Option String := none
  /-- Whether the list of files was declared. -/
  filesPresent : Option Bool := none
  deriving DecidableEq

/-- One attribute of a rule, with the payloads of all kinds. -/
structure Attribute where
  /-- The name. -/
  name : String := ""
  /-- The number of the kind of payload that counts. -/
  discriminator : Int32 := 1
  /-- An integer. -/
  integer : Option Int32 := none
  /-- A license. -/
  license : Option License := none
  /-- A string or a label. -/
  string : Option String := none
  /-- Strings or labels. -/
  strings : List String := []
  /-- Strings by key. -/
  stringDict : List StringDictEntry := []
  /-- Entries of a fileset. -/
  filesetEntries : List FilesetEntry := []
  /-- Labels by key. -/
  labelListDict : List LabelListDictEntry := []
  /-- Lists of strings by key. -/
  stringListDict : List StringListDictEntry := []
  /-- Where the attribute was declared. -/
  location : Option Location := none
  /-- Whether the build file names the attribute. -/
  explicit : Option Bool := none
  /-- A truth value. -/
  boolean : Option Bool := none
  /-- How a list was declared. -/
  globCriteria : List GlobCriteria := []
  deriving DecidableEq

/-- A rule with its attributes. -/
structure Rule where
  /-- The label. -/
  name : String := ""
  /-- The name of the rule class. -/
  ruleClass : String := ""
  /-- The attributes. -/
  attributes : List Attribute := []
  /-- Where the rule was declared. -/
  location : Option Location := none
  deriving DecidableEq

/-- An input file with its own policy, if any. -/
structure SourceFile where
  /-- The label. -/
  name : String := ""
  /-- The labels of the visibility. -/
  visibility : List String := []
  /-- Where the file was declared. -/
  location : Option Location := none
  /-- The license. -/
  license : Option License := none
  deriving DecidableEq

/-- A group of packages. -/
structure PackageGroup where
  /-- The label. -/
  name : String := ""
  /-- The specifications of the packages. -/
  contained : List String := []
  /-- The labels of the groups included. -/
  included : List String := []
  /-- Where the group was declared. -/
  location : Option Location := none
  deriving DecidableEq

/-- The value of a make variable on the platforms of a pattern. -/
structure MakeVarBinding where
  /-- The value. -/
  value : String := ""
  /-- The pattern. -/
  platform : String := ""
  deriving DecidableEq

/-- A make variable. -/
structure MakeVar where
  /-- The name. -/
  name : String := ""
  /-- The values by platform pattern. -/
  bindings : List MakeVarBinding := []
  deriving DecidableEq

/-- An event reported while the build file was evaluated. -/
structure Event where
  /-- The number of the kind. -/
  kind : Int32 := 1
  /-- Where the event was reported. -/
  location : Option Location := none
  /-- The text. -/
  message : String := ""
  deriving DecidableEq

/-- A package as the serializer writes it. -/
structure Package where
  /-- The package name. -/
  name : String := ""
  /-- Whether the default visibility was declared. -/
  defaultVisibilitySet : Option Bool := none
  /-- The labels of the default visibility. -/
  defaultVisibility : List String := []
  /-- Whether targets are obsolete by default. -/
  defaultObsolete : Option Bool := none
  /-- Whether targets are for tests only by default. -/
  defaultTestonly : Option Bool := none
  /-- The default deprecation notice. -/
  defaultDeprecation : Option String := none
  /-- The default license. -/
  defaultLicense : Option License := none
  /-- The tokens of the default distributions. -/
  defaultDistributions : List String := []
  /-- The labels of the included build files. -/
  subincludes : List String := []
  /-- The make variables. -/
  makeVariables : List MakeVar := []
  /-- The input files. -/
  sourceFiles : List SourceFile := []
  /-- The package groups. -/
  packageGroups : List PackageGroup := []
  /-- The rules. -/
  rules : List Rule := []
  /-- The events. -/
  events : List Event := []
  /-- Whether evaluating the build file found errors. -/
  containsErrors : Option Bool := none
  deriving DecidableEq

/-- One target of a message. -/
inductive Target where
  | sourceFile (file : SourceFile)
  | packageGroup (group : PackageGroup)
  | rule (rule : Rule)
  deriving DecidableEq

/-- The targets of a message: input files, package groups, rules. -/
def Package.targets (m : Package) : List Target :=
  m.sourceFiles.map .sourceFile ++ m.packageGroups.map .packageGroup ++ m.rules.map .rule

end BuildPackage.Wire
