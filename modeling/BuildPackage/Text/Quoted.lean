import BuildPackage.Text.Printable

set_option relaxedAutoImplicit false
set_option autoImplicit false

/-!
# Quoted text

A text is shown between double quotes on one line. The quote, the backslash and the common control
characters are written with a backslash; a character that would not show on its own is written by
its code point.

## Main definitions

* `BuildPackage.Quoted.escape` — how one character is written.
* `BuildPackage.Quoted.text` — a quoted text.
* `BuildPackage.Quoted.list` — a bracketed list of quoted texts.
-/

namespace BuildPackage.Quoted

/-- The characters that are written as a backslash and one more character. -/
def short? : Char → Option Char
  | '\x00' => some '0'
  | '\t' => some 't'
  | '\r' => some 'r'
  | '\n' => some 'n'
  | '\\' => some '\\'
  | '"' => some '"'
  | _ => none

/-- Whether a character is written as itself when it has no short escape. -/
def isLiteral (c : Char) : Bool := isPrintable c && !isFiller c && !extendsGrapheme c

/-- How one character is written: a short escape, the character itself, or its code point in
lower-case hexadecimal. -/
def escape (c : Char) : List Char :=
  match short? c with
  | some s => ['\\', s]
  | none =>
    if isLiteral c then [c]
    else ['\\', 'u', '\x7b'] ++ Nat.toDigits 16 c.toNat ++ ['\x7d']

/-- A text between double quotes. -/
def text (s : String) : List Char := '"' :: s.toList.flatMap escape ++ ['"']

/-- A bracketed list of quoted texts, with a comma and a space between neighbours. -/
def list (ss : List String) : List Char :=
  '[' :: List.intercalate [',', ' '] (ss.map text) ++ [']']

end BuildPackage.Quoted
