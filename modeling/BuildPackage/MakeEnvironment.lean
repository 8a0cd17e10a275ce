import BuildPackage.Wire.Message

set_option relaxedAutoImplicit false
set_option autoImplicit false

/-!
# Make environments

The make variables of a package. A variable may have different values on different platforms; the
last value given for a variable and a platform pattern counts, and everything stays in the order in
which it came first.

## Main definitions

* `BuildPackage.MakeEnvironment` — variables with their bindings.
* `BuildPackage.MakeEnvironment.update` — gives a value to a variable on some platforms.
* `BuildPackage.MakeEnvironment.get?` — the value of a variable on some platforms.
-/

namespace BuildPackage

/-- The value of a variable on the platforms of a pattern. -/
structure MakeBinding where
  /-- The pattern of the platforms. -/
  platform : String
  /-- The value. -/
  value : String
  deriving DecidableEq, Repr

/-- Variables with their bindings, in the order of their first updates. -/
structure MakeEnvironment where
  /-- The variables. -/
  entries : List (String × List MakeBinding)
  deriving DecidableEq, Repr, Inhabited

/-- The value that a variable is given on the platforms of a pattern. -/
structure MakeUpdate where
  /-- The variable. -/
  name : String
  /-- The pattern of the platforms. -/
  platform : String
  /-- The value. -/
  value : String
  deriving DecidableEq, Repr

namespace MakeEnvironment

/-- The environment without variables. -/
def empty : MakeEnvironment := ⟨[]⟩

/-- Whether there is no variable. -/
def isEmpty (env : MakeEnvironment) : Bool := env.entries.isEmpty

/-- Gives a value to a platform pattern, in place or at the end. -/
def updateBinding (platform value : String) : List MakeBinding → List MakeBinding
  | [] => [⟨platform, value⟩]
  | b :: rest =>
    if b.platform = platform then ⟨platform, value⟩ :: rest
    else b :: updateBinding platform value rest

/-- Applies an update to the bindings of its variable, in place or at the end. -/
def updateVariable (u : MakeUpdate) :
    List (String × List MakeBinding) → List (String × List MakeBinding)
  | [] => [(u.name, [⟨u.platform, u.value⟩])]
  | v :: rest =>
    if v.1 = u.name then (v.1, updateBinding u.platform u.value v.2) :: rest
    else v :: updateVariable u rest

/-- Gives a value to a variable on the platforms of a pattern. -/
def update (env : MakeEnvironment) (u : MakeUpdate) : MakeEnvironment :=
  ⟨updateVariable u env.entries⟩

/-- The environment of a sequence of updates. -/
def ofUpdates (updates : List MakeUpdate) : MakeEnvironment := updates.foldl update empty

/-- The names of the variables. -/
def names (env : MakeEnvironment) : List String := env.entries.map Prod.fst

/-- The bindings of a variable, none if it was never updated. -/
def bindings (env : MakeEnvironment) (name : String) : List MakeBinding :=
  ((env.entries.find? fun v => v.1 = name).map Prod.snd).getD []

/-- The value of a variable for a platform pattern. -/
def get? (env : MakeEnvironment) (name platform : String) : Option String :=
  ((env.bindings name).find? fun b => b.platform = platform).map MakeBinding.value

/-- The updates of a message: the bindings of its variables in order. -/
def updatesOfWire (vars : List Wire.MakeVar) : List MakeUpdate :=
  vars.flatMap fun v => v.bindings.map fun b => ⟨v.name, b.platform, b.value⟩

/-- The environment of a message. A variable without bindings leaves no trace. -/
def ofWire (vars : List Wire.MakeVar) : MakeEnvironment :=
  ofUpdates (updatesOfWire vars)

end MakeEnvironment

end BuildPackage
