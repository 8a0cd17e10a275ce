import BuildPackage.License
import BuildPackage.Target.Kind
import BuildPackage.Wire.Malformed

set_option relaxedAutoImplicit false
set_option autoImplicit false

/-!
# Decoding errors

Why a message is no package. An error is its cause; the wording and the kind by which callers sort
errors are functions of the cause.

## Main definitions

* `BuildPackage.DecodeError` — the causes.
* `BuildPackage.DecodeError.kind` — the kind of a cause.
* `BuildPackage.DecodeError.message` — the wording of a cause.
* `BuildPackage.readLabel`, `BuildPackage.readLabels` — label readers that refuse with a cause.
-/

namespace BuildPackage

/-- The largest message that is read, in bytes. -/
def maxMessageSize : Nat := 64 * 1024 * 1024

/-- Why a message is no package. -/
inductive DecodeError where
  /-- A label is refused. -/
  | label (error : LabelError)
  /-- A rule class is not registered. -/
  | unknownRuleClass (ruleClass : String)
  /-- A rule class does not declare an attribute. -/
  | unknownAttribute (ruleClass name : String)
  /-- The payload of an attribute has a kind that is not supported. -/
  | unsupportedEncoding (name : String) (discriminator : Int32)
  /-- A license is refused. -/
  | license (error : LicenseError)
  /-- A distribution is unknown. -/
  | unknownDistribution (token : String)
  /-- A text is none of the three truth values. -/
  | tristate (value : String)
  /-- A name is given to two targets. -/
  | nameTaken (kind : TargetKind) (name package : String)
  /-- A target lies in another package. -/
  | outsidePackage (target : Label) (package : String)
  /-- The package of an included build file has no build file. -/
  | unresolvedSubinclude (target : Label)
  /-- The package itself has no build file. -/
  | buildFileNotFound (package : String)
  /-- The message is too large. -/
  | messageTooLarge (size : Nat)
  /-- The bytes are no message. -/
  | malformed (cause : Wire.Malformed)
  /-- The search for subpackages was interrupted. -/
  | interrupted
  /-- The number of what happens to symbolic links has no meaning. -/
  | symlinkBehavior (value : Int32)
  deriving DecidableEq

/-- The kinds by which callers sort errors. -/
inductive ErrorKind where
  | invalidLabel
  | unknownRuleClass
  | unknownAttribute
  | unknownAttributeEncoding
  | licenseParse
  | invalidTristate
  | nameConflict
  | unresolvedBuildFile
  | malformedMessage
  | interrupted
  | internalConsistency
  deriving DecidableEq, Repr

namespace ErrorKind

/-- The name of a kind. -/
def name : ErrorKind → String
  | invalidLabel => "invalid-label"
  | unknownRuleClass => "unknown-rule-class"
  | unknownAttribute => "unknown-attribute"
  | unknownAttributeEncoding => "unknown-attribute-encoding"
  | licenseParse => "license-parse"
  | invalidTristate => "invalid-tristate"
  | nameConflict => "name-conflict"
  | unresolvedBuildFile => "unresolved-build-file"
  | malformedMessage => "malformed-message"
  | interrupted => "interrupted"
  | internalConsistency => "internal-consistency"

/-- Whether the fault lies with the writer of the message and not with the build file. -/
def isDefect : ErrorKind → Bool
  | internalConsistency => true
  | _ => false

end ErrorKind

namespace DecodeError

/-- The kind of a cause. -/
def kind : DecodeError → ErrorKind
  | label _ => .invalidLabel
  | unknownRuleClass _ => .unknownRuleClass
  | unknownAttribute _ _ => .unknownAttribute
  | unsupportedEncoding _ _ => .unknownAttributeEncoding
  | license _ | unknownDistribution _ => .licenseParse
  | tristate _ => .invalidTristate
  | nameTaken _ _ _ | outsidePackage _ _ => .nameConflict
  | unresolvedSubinclude _ | buildFileNotFound _ => .unresolvedBuildFile
  | messageTooLarge _ | malformed _ => .malformedMessage
  | interrupted => .interrupted
  | symlinkBehavior _ => .internalConsistency

/-- The wording of a cause. -/
def message : DecodeError → String
  | label error => error.message
  | unknownRuleClass ruleClass => s!"invalid rule class '{ruleClass}'"
  | unknownAttribute ruleClass name => s!"rule class '{ruleClass}' has no attribute '{name}'"
  | unsupportedEncoding name discriminator =>
    s!"attribute '{name}' has unsupported wire discriminator {discriminator.toInt}"
  | license error => error.message
  | unknownDistribution token => s!"invalid distribution type: '{token}'"
  | tristate value => s!"invalid tristate value: '{value}'"
  | nameTaken kind name package =>
    s!"{kind.text} '{name}' conflicts with an existing target in package '{package}'"
  | outsidePackage target package =>
    s!"target '{target.text}' does not belong to package '{package}'"
  | unresolvedSubinclude target =>
    s!"no build file found for sub-included package '{target.package}' (from '{target.text}')"
  | buildFileNotFound package => s!"no build file found for package '{package}'"
  | messageTooLarge size =>
    s!"package message length {size} exceeds maximum {maxMessageSize}"
  | malformed cause => "malformed package message: " ++ cause.message
  | interrupted => "interrupted while locating subpackages"
  | symlinkBehavior value =>
    s!"internal consistency failure: symlink behavior (value {value.toInt})"

end DecodeError

/-- Reads a label. -/
def readLabel (text : String) : Except DecodeError Label := (Label.parse text).mapError .label

/-- Reads labels in order, up to the first that is refused. -/
def readLabels (texts : List String) : Except DecodeError (List Label) :=
  (Label.parseAll texts).mapError .label

end BuildPackage
