import BuildPackage.Label.Basic
import Std.Data.ExtTreeSet.Lemmas

set_option relaxedAutoImplicit false
set_option autoImplicit false

/-!
# Licenses and distributions

A license is a set of license types with a set of targets that are excepted from it. It is written
as a list of tokens: the name of a type in any case, or `exception=` before a label.

## Main definitions

* `BuildPackage.License` — types and exceptions.
* `BuildPackage.License.parse` — reads a list of tokens; no type at all means the type `none`.
* `BuildPackage.License.text` — the types and then the exceptions, with commas between them.
* `BuildPackage.Distribution.parseAll` — reads a set of distributions.
-/

namespace BuildPackage

/-! ## License types -/

/-- The kinds of license, from the most to the least restrictive. -/
inductive LicenseType where
  | byExceptionOnly
  | restricted
  | reciprocal
  | notice
  | permissive
  | unencumbered
  | none
  deriving DecidableEq, Repr

namespace LicenseType

/-- All types in their order. -/
def all : List LicenseType :=
  [byExceptionOnly, restricted, reciprocal, notice, permissive, unencumbered, none]

/-- The name of a type. -/
def text : LicenseType → String
  | byExceptionOnly => "by_exception_only"
  | restricted => "restricted"
  | reciprocal => "reciprocal"
  | notice => "notice"
  | permissive => "permissive"
  | unencumbered => "unencumbered"
  | none => "none"

/-- The type of a name, written in any mixture of ASCII cases. -/
def ofToken? (token : String) : Option LicenseType :=
  all.find? fun t => t.text == token.toLower

/-- Types are ordered as they are listed. -/
instance : Ord LicenseType := ⟨compareOn LicenseType.ctorIdx⟩

instance : Std.TransOrd LicenseType :=
  inferInstanceAs (Std.TransCmp (compareOn LicenseType.ctorIdx))

instance : Std.LawfulEqOrd LicenseType where
  compare_self {a} := by cases a <;> rfl
  eq_of_compare {a b} h := by cases a <;> cases b <;> trivial

end LicenseType

/-! ## Licenses -/

/-- Why a list of tokens is no license. -/
inductive LicenseError where
  /-- A token is neither a type nor an exception. -/
  | unknownType (token : String)
  /-- The label of an exception is refused. -/
  | badException (error : LabelError)
  deriving DecidableEq, Repr

/-- The wording of a refusal. -/
def LicenseError.message : LicenseError → String
  | unknownType token => s!"invalid license type: '{token}'"
  | badException error => s!"invalid license exception: {error.message}"

/-- The types of a license and the targets excepted from it. -/
structure License where
  /-- The license types. -/
  types : Std.ExtTreeSet LicenseType
  /-- The excepted targets. -/
  exceptions : Std.ExtTreeSet Label
  deriving DecidableEq

namespace License

/-- What marks a token as an exception. -/
def exceptionMark : String := "exception="

/-- The type `none` without exceptions. -/
def noLicense : License := ⟨{LicenseType.none}, ∅⟩

instance : Inhabited License := ⟨noLicense⟩

/-- Whether a license says nothing. -/
def isNoLicense (l : License) : Bool := l = noLicense

/-- What one token stands for. -/
inductive Token where
  /-- A license type. -/
  | ofType (type : LicenseType)
  /-- An excepted target. -/
  | ofException (label : Label)
  deriving DecidableEq

/-- Reads one token. -/
def Token.parse (token : String) : Except LicenseError Token :=
  if exceptionMark.toList <+: token.toList then
    match Label.parse (String.ofList (token.toList.drop exceptionMark.toList.length)) with
    | .ok label => .ok (.ofException label)
    | .error e => .error (.badException e)
  else
    match LicenseType.ofToken? token with
    | some type => .ok (.ofType type)
    | none => .error (.unknownType token)

/-- The type of a token that names one. -/
def Token.type? : Token → Option LicenseType
  | ofType type => some type
  | ofException _ => none

/-- The target of a token that excepts one. -/
def Token.exception? : Token → Option Label
  | ofType _ => none
  | ofException label => some label

/-- The license of a list of tokens. Without a type it has the type `none`. -/
def ofTokens (tokens : List Token) : License where
  types :=
    match tokens.filterMap Token.type? with
    | [] => {LicenseType.none}
    | types => .ofList types
  exceptions := .ofList (tokens.filterMap Token.exception?)

/-- Reads a list of tokens, up to the first that is refused. -/
def parse (tokens : List String) : Except LicenseError License :=
  return ofTokens (← tokens.mapM Token.parse)

/-- The tokens of a license: its types and then its exceptions, each in order. -/
def tokens (l : License) : List String :=
  l.types.toList.map LicenseType.text ++
    l.exceptions.toList.map fun label => exceptionMark ++ label.text

/-- The tokens with a comma and a space between neighbours. -/
def text (l : License) : String := String.intercalate ", " l.tokens

instance : ToString License := ⟨text⟩

end License

/-! ## Distributions -/

/-- The ways in which a target is distributed. -/
inductive Distribution where
  | internal
  | web
  | client
  | embedded
  deriving DecidableEq, Repr

namespace Distribution

/-- All distributions in their order. -/
def all : List Distribution := [internal, web, client, embedded]

/-- The name of a distribution. -/
def text : Distribution → String
  | internal => "internal"
  | web => "web"
  | client => "client"
  | embedded => "embedded"

/-- The distribution of a name, written in any mixture of ASCII cases. -/
def ofToken? (token : String) : Option Distribution :=
  all.find? fun d => d.text == token.toLower

/-- Distributions are ordered as they are listed. -/
instance : Ord Distribution := ⟨compareOn Distribution.ctorIdx⟩

instance : Std.TransOrd Distribution :=
  inferInstanceAs (Std.TransCmp (compareOn Distribution.ctorIdx))

instance : Std.LawfulEqOrd Distribution where
  compare_self {a} := by cases a <;> rfl
  eq_of_compare {a b} h := by cases a <;> cases b <;> trivial

/-- The set of distributions of a list of names, or the first name that is unknown. -/
def parseAll (tokens : List String) : Except String (Std.ExtTreeSet Distribution) :=
  return .ofList (← tokens.mapM fun token => (ofToken? token).elim (.error token) .ok)

end Distribution

end BuildPackage
