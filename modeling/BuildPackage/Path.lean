import BuildPackage.Text.Segments

set_option relaxedAutoImplicit false
set_option autoImplicit false

/-!
# Paths

A path keeps the text that it was written with and is compared by its components. A leading slash
is the root. Empty segments mean nothing, and neither does a `.` segment unless a relative path
begins with it.

## Main definitions

* `BuildPackage.Path` — a path as its text.
* `BuildPackage.Path.components` — the components that count.
* `BuildPackage.Path.parent` — the path without its last component, as a part of its text.
* `BuildPackage.Path.join` — a path below a directory.
-/

namespace BuildPackage

/-- A path as it was written. -/
structure Path where
  /-- The text. -/
  text : String
  deriving Inhabited

namespace Path

instance : ToString Path := ⟨text⟩

/-- One step of a path. -/
inductive Component where
  /-- The root directory. -/
  | root
  /-- The `.` that a relative path begins with. -/
  | here
  /-- The directory above. -/
  | up
  /-- An entry of the directory. -/
  | entry (name : List Char)
  deriving DecidableEq, Repr

/-- What a path starts from. -/
inductive Start where
  /-- The root directory. -/
  | root
  /-- An explicit `.` segment. -/
  | here
  /-- The first segment itself. -/
  | bare
  deriving DecidableEq, Repr

/-- The component that a start stands for. -/
def Start.components : Start → List Component
  | root => [.root]
  | here => [.here]
  | bare => []

/-- The start of a path and the segments after it. -/
def anatomy (p : Path) : Start × List (List Char) :=
  match p.text.toList with
  | '/' :: rest => (.root, Segments.split rest)
  | cs =>
    match Segments.split cs with
    | ['.'] :: rest => (.here, rest)
    | segments => (.bare, segments)

/-- The text of segments after a start. -/
def assemble : Start → List (List Char) → Path
  | .root, segments => ⟨String.ofList ('/' :: Segments.join segments)⟩
  | .here, segments => ⟨String.ofList (Segments.join (['.'] :: segments))⟩
  | .bare, segments => ⟨String.ofList (Segments.join segments)⟩

/-- The component of a segment after the start, if the segment means anything. -/
def component? (segment : List Char) : Option Component :=
  if segment = [] ∨ segment = ['.'] then none
  else if segment = ['.', '.'] then some .up
  else some (.entry segment)

/-- The components that count, in order. -/
def components (p : Path) : List Component :=
  p.anatomy.1.components ++ p.anatomy.2.filterMap component?

/-- Paths are compared by their components. -/
instance : BEq Path := ⟨fun p q => p.components == q.components⟩

/-- Segments without the meaningless ones at their end. -/
def trimEnd (segments : List (List Char)) : List (List Char) :=
  (segments.reverse.dropWhile fun s => (component? s).isNone).reverse

/-- The path without its last component: the leading part of its text, without slashes and
meaningless segments at the new end. A path without a component after its start has the empty
parent. -/
def parent (p : Path) : Path :=
  match trimEnd p.anatomy.2 with
  | [] => ⟨""⟩
  | segments => assemble p.anatomy.1 (trimEnd segments.dropLast)

/-- A name below a directory. An absolute name stands for itself. -/
def join (base : Path) (name : String) : Path :=
  if name.toList.head? = some '/' then ⟨name⟩
  else if base.text.isEmpty ∨ base.text.toList.getLast? = some '/' then ⟨base.text ++ name⟩
  else ⟨base.text ++ "/" ++ name⟩

end Path

end BuildPackage
