import BuildPackage.Text.Segments

set_option relaxedAutoImplicit false
set_option autoImplicit false

/-!
# Target labels

A label `//package:name` names one target of one package. Both parts are slash-separated names
without empty, `.` or `..` segments; the package alone may be empty, which is the root package.

## Main definitions

* `BuildPackage.Label` — a package and a target name that obey the grammar.
* `BuildPackage.Label.ofParts` — checks two parts.
* `BuildPackage.Label.parse` — reads `//package:name`, or `//a/b` as short for `//a/b:b`.
* `BuildPackage.Label.text` — writes the full form.
* `BuildPackage.LabelError` — the refused text with the first rule that it breaks.
-/

namespace BuildPackage

/-! ## The grammar of names -/

/-- A rule for slash-separated names that a text breaks. -/
inductive NameFault where
  /-- The text begins with a slash. -/
  | leadingSlash
  /-- The text ends with a slash. -/
  | trailingSlash
  /-- Two slashes follow one another. -/
  | emptySegment
  /-- A segment is `.` or `..`. -/
  | dotSegment
  /-- A character is outside the alphabet. -/
  | badCharacter
  deriving DecidableEq, Repr

/-- The rule that a single segment breaks. -/
def segmentFault? (segment : List Char) : Option NameFault :=
  if segment = [] then some .emptySegment
  else if segment = ['.'] ∨ segment = ['.', '.'] then some .dotSegment
  else none

/-- The first rule that a slash-separated name over an alphabet breaks: slashes at either end, then
the segments in order, then the characters. -/
def nameFault? (alphabet : Char → Bool) (name : List Char) : Option NameFault :=
  if name.head? = some '/' then some .leadingSlash
  else if name.getLast? = some '/' then some .trailingSlash
  else
    match (Segments.split name).findSome? segmentFault? with
    | some fault => some fault
    | none => if name.all alphabet then none else some .badCharacter

/-- Package names are written with ASCII letters and digits and `/ - . _ @ + = , ~`. -/
def isPackageChar (c : Char) : Bool :=
  c.isAlphanum || "/-._@+=,~".toList.contains c

/-- Target names are written with the visible ASCII characters other than the colon. -/
def isTargetChar (c : Char) : Bool :=
  '!' ≤ c && c ≤ '~' && c != ':'

/-! ## Labels -/

/-- Why a text is no label. -/
inductive LabelFault where
  /-- The two leading slashes are missing. -/
  | unanchored
  /-- There is no target name. -/
  | emptyTarget
  /-- The package name breaks a rule. -/
  | package (fault : NameFault)
  /-- The target name breaks a rule. -/
  | target (fault : NameFault)
  deriving DecidableEq, Repr

/-- The rule that a package name breaks. The empty name is the root package. -/
def packageFault? (package : String) : Option LabelFault :=
  if package.isEmpty then none else (nameFault? isPackageChar package.toList).map .package

/-- The rule that a target name breaks. -/
def targetFault? (name : String) : Option LabelFault :=
  if name.isEmpty then some .emptyTarget else (nameFault? isTargetChar name.toList).map .target

/-- A refused label text with the reason. -/
structure LabelError where
  /-- The text as it was given. -/
  text : String
  /-- The first rule that it breaks. -/
  fault : LabelFault
  deriving DecidableEq, Repr

/-- The name of one target of one package. -/
structure Label where
  /-- The package, without the leading slashes. -/
  package : String
  /-- The target name within the package. -/
  name : String
  /-- The package obeys the grammar of package names. -/
  package_valid : packageFault? package = none
  /-- The name obeys the grammar of target names. -/
  name_valid : targetFault? name = none
  deriving DecidableEq

namespace Label

/-- The full form, with the name always written. -/
def text (l : Label) : String := "//" ++ l.package ++ ":" ++ l.name

instance : ToString Label := ⟨text⟩

/-- Checks a package and then a name; a refusal carries the text that they were read from. -/
def check (text package name : String) : Except LabelError Label :=
  match hp : packageFault? package, hn : targetFault? name with
  | some fault, _ => .error ⟨text, fault⟩
  | none, some fault => .error ⟨text, fault⟩
  | none, none => .ok ⟨package, name, hp, hn⟩

/-- The label of a package and a target name. -/
def ofParts (package name : String) : Except LabelError Label :=
  check ("//" ++ package ++ ":" ++ name) package name

/-- The texts before and after the first colon. -/
def splitColon? (cs : List Char) : Option (List Char × List Char) :=
  match cs.dropWhile (· != ':') with
  | _ :: name => some (cs.takeWhile (· != ':'), name)
  | [] => none

/-- Reads a label. Without a colon the name is the last segment of the package, and a missing name is
reported before any fault of the package. -/
def parse (text : String) : Except LabelError Label :=
  match text.toList with
  | '/' :: '/' :: rest =>
    match splitColon? rest with
    | some (package, name) => check text (String.ofList package) (String.ofList name)
    | none =>
      if Segments.last rest = [] then .error ⟨text, .emptyTarget⟩
      else check text (String.ofList rest) (String.ofList (Segments.last rest))
  | _ => .error ⟨text, .unanchored⟩

/-- Reads labels in order, up to the first that is refused. -/
def parseAll (texts : List String) : Except LabelError (List Label) := texts.mapM parse

/-- Labels are ordered by package and then by name. -/
instance : Ord Label := ⟨compareLex (compareOn Label.package) (compareOn Label.name)⟩

instance : Std.TransOrd Label :=
  inferInstanceAs (Std.TransCmp (compareLex (compareOn Label.package) (compareOn Label.name)))

theorem ext_parts {a b : Label} (hp : a.package = b.package) (hn : a.name = b.name) : a = b := by
  cases a
  cases b
  obtain rfl := hp
  obtain rfl := hn
  rfl

instance : Std.LawfulEqOrd Label where
  compare_self := Std.ReflCmp.compare_self
  eq_of_compare h :=
    have hc := compareLex_eq_eq.1 h
    ext_parts (Std.LawfulEqCmp.eq_of_compare hc.1) (Std.LawfulEqCmp.eq_of_compare hc.2)

end Label

/-! ## Wording -/

/-- The wording of a broken rule, for the kind of name that broke it. -/
def NameFault.message (kind : String) : NameFault → String
  | .leadingSlash => s!"{kind} may not start with '/'"
  | .trailingSlash => s!"{kind} may not end with '/'"
  | .emptySegment => s!"{kind} may not contain '//'"
  | .dotSegment => s!"{kind} may not contain '.' or '..' segments"
  | .badCharacter => s!"{kind} contains an invalid character"

/-- The wording of a refusal's reason. -/
def LabelFault.message : LabelFault → String
  | .unanchored => "must start with '//'"
  | .emptyTarget => "empty target name"
  | .package fault => fault.message "package name"
  | .target fault => fault.message "target name"

/-- The wording of a refusal. -/
def LabelError.message (e : LabelError) : String :=
  s!"invalid label '{e.text}': {e.fault.message}"

end BuildPackage
