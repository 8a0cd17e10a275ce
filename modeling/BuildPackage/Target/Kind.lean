set_option relaxedAutoImplicit false
set_option autoImplicit false

/-!
# Kinds of targets

All targets of a package share one space of names, whatever their kind.

## Main definitions

* `BuildPackage.TargetKind` — the kinds of targets.
-/

namespace BuildPackage

/-- The kinds of targets. -/
inductive TargetKind where
  | inputFile
  | packageGroup
  | rule
  | outputFile
  deriving DecidableEq, Repr

/-- The name of a kind. -/
def TargetKind.text : TargetKind → String
  | inputFile => "input file"
  | packageGroup => "package group"
  | rule => "rule"
  | outputFile => "output file"

end BuildPackage
