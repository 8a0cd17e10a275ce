import BuildPackage.Dialogue
import BuildPackage.Error
import BuildPackage.Path

set_option relaxedAutoImplicit false
set_option autoImplicit false

/-!
# Inquiries about the workspace

Decoding a package has to know some things that the message does not tell: where build files are, and
which directories are packages of their own. It asks for them as it goes.

## Main definitions

* `BuildPackage.Question` — what is asked.
* `BuildPackage.Workspace` — answers to all questions.
* `BuildPackage.Inquiry` — a computation that asks and may fail.
* `BuildPackage.Inquiry.inWorkspace` — what is asked and what comes of it.
-/

namespace BuildPackage

/-- What decoding asks about the workspace. -/
inductive Question where
  /-- Where the build file of a package is. -/
  | buildFile (package : String)
  /-- Whether a directory is a package of its own. -/
  | isPackage (directory : String)
  deriving DecidableEq, Repr

/-- The answers to a question. A build file may be missing, and the search for packages may be
interrupted. -/
abbrev Question.Answer : Question → Type
  | buildFile _ => Option Path
  | isPackage _ => Option Bool

/-- Answers to all questions. -/
structure Workspace where
  /-- The build file of a package, if there is one. -/
  buildFile? : String → Option Path
  /-- Whether a directory is a package, or nothing when the search is interrupted. -/
  isPackage? : String → Option Bool

/-- The answer to a question. -/
def Workspace.answer (w : Workspace) : (q : Question) → q.Answer
  | .buildFile package => w.buildFile? package
  | .isPackage directory => w.isPackage? directory

/-- A computation that asks about the workspace. -/
abbrev Survey : Type → Type := Dialogue Question Question.Answer

/-- A computation that asks about the workspace and may fail. -/
abbrev Inquiry : Type → Type := ExceptT DecodeError Survey

namespace Inquiry

variable {α : Type}

/-- Asks for the build file of a package, and fails if there is none. -/
def buildFile (package : String) (missing : DecodeError) : Inquiry Path :=
  ExceptT.mk <| .ask (.buildFile package) fun
    | some path => .done (.ok path)
    | none => .done (.error missing)

/-- A computation that asks nothing. -/
def ofExcept (e : Except DecodeError α) : Inquiry α := ExceptT.mk (.done e)

/-- The questions asked and the result, in a given workspace. -/
def inWorkspace (w : Workspace) (i : Inquiry α) : List Question × Except DecodeError α :=
  i.run.run w.answer

end Inquiry

end BuildPackage
