set_option relaxedAutoImplicit false
set_option autoImplicit false

/-!
# JSON values

The values that a summary is made of, and their text with one member to a line.

## Main definitions

* `BuildPackage.Json` — the values.
* `BuildPackage.Json.get?` — the member of an object.
* `BuildPackage.Json.pretty` — the text of a value.
-/

namespace BuildPackage

/-- A JSON value. Numbers are integers. -/
inductive Json where
  | null
  | bool (value : Bool)
  | int (value : Int)
  | text (value : String)
  | array (items : List Json)
  | object (members : List (String × Json))
  deriving Inhabited, BEq

namespace Json

/-- The array of the values of a list. -/
def list {α : Type} (f : α → Json) (l : List α) : Json := array (l.map f)

/-- The array of some texts. -/
def texts (l : List String) : Json := list text l

/-- Null, or the value of what is there. -/
def ofOption {α : Type} (f : α → Json) : Option α → Json
  | none => null
  | some a => f a

/-- The first member of a name. -/
def get? (name : String) : Json → Option Json
  | object members => (members.find? fun m => m.1 = name).map Prod.snd
  | _ => none

/-! ## Text -/

/-- How one character of a text is written. Control characters are written by their code points. -/
def escape (c : Char) : List Char :=
  match c with
  | '"' => ['\\', '"']
  | '\\' => ['\\', '\\']
  | '\n' => ['\\', 'n']
  | '\r' => ['\\', 'r']
  | '\t' => ['\\', 't']
  | '\x08' => ['\\', 'b']
  | '\x0c' => ['\\', 'f']
  | c =>
    if c.toNat < 0x20 then
      ['\\', 'u', '0', '0', Nat.digitChar (c.toNat / 16), Nat.digitChar (c.toNat % 16)]
    else [c]

/-- A text between quotes. -/
def quote (s : String) : String := "\"" ++ String.ofList (s.toList.flatMap escape) ++ "\""

/-- Lines between brackets, indented, with a comma after each but the last. -/
def block (indent : String) (opening closing : String) (items : List String) : String :=
  if items.isEmpty then opening ++ closing
  else
    let inner := indent ++ "  "
    opening ++ "\n" ++ inner ++ String.intercalate (",\n" ++ inner) items ++ "\n" ++ indent ++
      closing

mutual

/-- The text of a value whose lines after the first are indented. -/
def render (indent : String) : Json → String
  | null => "null"
  | bool value => if value then "true" else "false"
  | int value => toString value
  | text value => quote value
  | array items => block indent "[" "]" (renderItems (indent ++ "  ") items)
  | object members => block indent "\x7b" "\x7d" (renderMembers (indent ++ "  ") members)

/-- The texts of the items of an array. -/
def renderItems (indent : String) : List Json → List String
  | [] => []
  | item :: rest => render indent item :: renderItems indent rest

/-- The texts of the members of an object. -/
def renderMembers (indent : String) : List (String × Json) → List String
  | [] => []
  | (name, value) :: rest =>
    (quote name ++ ": " ++ render indent value) :: renderMembers indent rest

end

/-- The text of a value on lines of its own. -/
def pretty (j : Json) : String := render "" j

end Json

end BuildPackage
