import BuildPackage.Path
import BuildPackage.Wire.Message

set_option relaxedAutoImplicit false
set_option autoImplicit false

/-!
# Source locations

Where a target, an attribute or an event was declared: a build file with byte offsets and with
line and column numbers, either of which may be unknown and is zero then.

## Main definitions

* `BuildPackage.LineColumn` — a position in a file.
* `BuildPackage.Location` — a span of a build file.
* `BuildPackage.Location.ofWire` — the span of a message.
-/

namespace BuildPackage

/-- A line and a column. Both are zero when the position is unknown. -/
structure LineColumn where
  /-- The line, from one. -/
  line : Int32
  /-- The column, from one. -/
  column : Int32
  deriving DecidableEq, Repr, Inhabited

namespace LineColumn

/-- No position. -/
def unknown : LineColumn := ⟨0, 0⟩

/-- Whether a position was recorded. -/
def isKnown (p : LineColumn) : Bool := p != unknown

end LineColumn

/-- A span of a build file. -/
structure Location where
  /-- The build file. -/
  path : Path
  /-- The byte offset of the first character. -/
  startOffset : Int32
  /-- The byte offset after the last character. -/
  endOffset : Int32
  /-- The position of the first character. -/
  start : LineColumn
  /-- The position after the last character. -/
  stop : LineColumn
  deriving BEq, Inhabited

namespace Location

/-- A whole file. -/
def ofFile (path : Path) : Location := ⟨path, 0, 0, .unknown, .unknown⟩

/-- The path, followed by the start position when that is known. -/
def text (l : Location) : String :=
  if l.start.isKnown then
    l.path.text ++ ":" ++ toString l.start.line.toInt ++ ":" ++ toString l.start.column.toInt
  else l.path.text

instance : ToString Location := ⟨text⟩

/-- The span of a message, in a build file. The two offsets count together, and so do the four line
and column numbers: if one of them is missing, all are unknown. -/
def ofWire (path : Path) (location : Option Wire.Location) : Location :=
  let l := location.getD {}
  let (startOffset, endOffset) :=
    match l.startOffset, l.endOffset with
    | some a, some b => (a, b)
    | _, _ => (0, 0)
  let (start, stop) :=
    match l.startLine, l.startColumn, l.endLine, l.endColumn with
    | some a, some b, some c, some d => (LineColumn.mk a b, LineColumn.mk c d)
    | _, _, _, _ => (.unknown, .unknown)
  ⟨path, startOffset, endOffset, start, stop⟩

end Location

end BuildPackage
