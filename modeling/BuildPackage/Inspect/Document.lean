import Std.Data.ExtTreeMap.Lemmas

set_option relaxedAutoImplicit false
set_option autoImplicit false

/-!
# Registry documents

A registry is written in JSON as an object of objects of strings: the name of a class, the name of
an attribute, the name of its type. Any other text is refused as a whole. A name may be written more
than once; the last time counts.

## Main definitions

* `BuildPackage.Document` — the members as they are written.
* `BuildPackage.Document.parse?` — reads the text of a document.
* `BuildPackage.Document.types` — the members that count, by name.
-/

namespace BuildPackage

/-! ## Tokens -/

/-- What a document is made of. -/
inductive DocumentToken where
  /-- The start of an object. -/
  | opening
  /-- The end of an object. -/
  | closing
  /-- The mark between a name and its value. -/
  | colon
  /-- The mark between two members. -/
  | comma
  /-- A text between quotes. -/
  | text (value : List Char)
  deriving DecidableEq, Repr

namespace DocumentToken

/-- The value of a hexadecimal digit in either case. -/
def hexValue? (c : Char) : Option Nat :=
  if '0' ≤ c ∧ c ≤ '9' then some (c.toNat - '0'.toNat)
  else if 'a' ≤ c ∧ c ≤ 'f' then some (c.toNat - 'a'.toNat + 10)
  else if 'A' ≤ c ∧ c ≤ 'F' then some (c.toNat - 'A'.toNat + 10)
  else none

/-- The number of four hexadecimal digits. -/
def unit? (a b c d : Char) : Option Nat := do
  return (((← hexValue? a) * 16 + (← hexValue? b)) * 16 + (← hexValue? c)) * 16 + (← hexValue? d)

/-- Whether a UTF-16 unit is the first of a pair. -/
def isHigh (n : Nat) : Bool := 0xD800 ≤ n && n < 0xDC00

/-- Whether a UTF-16 unit is the second of a pair. -/
def isLow (n : Nat) : Bool := 0xDC00 ≤ n && n < 0xE000

/-- The character of a pair of UTF-16 units. -/
def pairChar (high low : Nat) : Char :=
  Char.ofNat (0x10000 + (high - 0xD800) * 0x400 + (low - 0xDC00))

/-- The character of a backslash and one more character. -/
def short? : Char → Option Char
  | '"' => some '"'
  | '\\' => some '\\'
  | '/' => some '/'
  | 'b' => some '\x08'
  | 'f' => some '\x0c'
  | 'n' => some '\n'
  | 'r' => some '\r'
  | 't' => some '\t'
  | _ => none

/-- The character that begins after a backslash, with the characters after it. Code points beyond
the first plane are written as pairs of units; a unit of a pair does not stand alone. -/
def escaped? : List Char → Option (Char × List Char)
  | 'u' :: a :: b :: c :: d :: rest => do
    let n ← unit? a b c d
    if isHigh n then
      match rest with
      | '\\' :: 'u' :: a :: b :: c :: d :: rest =>
        let low ← unit? a b c d
        if isLow low then some (pairChar n low, rest) else none
      | _ => none
    else if isLow n then none
    else some (Char.ofNat n, rest)
  | c :: rest => (short? c).map fun s => (s, rest)
  | [] => none

theorem length_lt_of_escaped? {cs rest : List Char} {c : Char}
    (h : escaped? cs = some (c, rest)) : rest.length < cs.length := by
  unfold escaped? at h
  split at h
  next a b d e tail =>
    cases hu : unit? a b d e with
    | none => simp [hu] at h
    | some n =>
      simp only [hu, Option.bind_eq_bind, Option.bind_some] at h
      split at h
      next =>
        split at h
        next a b d e tail =>
          cases hl : unit? a b d e with
          | none => simp [hl] at h
          | some low =>
            simp only [hl, Option.bind_some] at h
            split at h
            next =>
              simp only [Option.some.injEq, Prod.mk.injEq] at h
              simp only [← h.2, List.length_cons]
              omega
            next => exact nomatch h
        next => exact nomatch h
      next =>
        split at h
        next => exact nomatch h
        next =>
          simp only [Option.some.injEq, Prod.mk.injEq] at h
          simp only [← h.2, List.length_cons]
          omega
  next c tail _ =>
    cases hs : short? c with
    | none => simp [hs] at h
    | some s =>
      simp only [hs, Option.map_some, Option.some.injEq, Prod.mk.injEq] at h
      simp [← h.2]
  next => exact nomatch h

/-- The text up to the closing quote, with the characters after the quote. Control characters have to
be escaped. -/
def quoted? (cs : List Char) : Option (List Char × List Char) :=
  match cs with
  | [] => none
  | '"' :: rest => some ([], rest)
  | '\\' :: rest =>
    match h : escaped? rest with
    | none => none
    | some (c, rest') =>
      have := length_lt_of_escaped? h
      (quoted? rest').map fun t => (c :: t.1, t.2)
  | c :: rest => if c.toNat < 0x20 then none else (quoted? rest).map fun t => (c :: t.1, t.2)
termination_by cs.length

theorem length_lt_of_quoted? {cs t rest : List Char} (h : quoted? cs = some (t, rest)) :
    rest.length < cs.length := by
  fun_induction quoted? cs generalizing t rest with
  | case1 => exact nomatch h
  | case2 tail =>
    simp only [Option.some.injEq, Prod.mk.injEq] at h
    simp [← h.2]
  | case3 => exact nomatch h
  | case4 tail c tail' he hlt ih =>
    obtain ⟨u, hu, hut⟩ := Option.map_eq_some_iff.1 h
    have := ih hu
    obtain ⟨-, rfl⟩ := Prod.mk.inj hut
    simp only [List.length_cons]
    omega
  | case5 => exact nomatch h
  | case6 c tail _ _ _ ih =>
    obtain ⟨u, hu, hut⟩ := Option.map_eq_some_iff.1 h
    have := ih hu
    obtain ⟨-, rfl⟩ := Prod.mk.inj hut
    simp only [List.length_cons]
    omega

/-- Whether a character may stand between tokens. -/
def isBlank (c : Char) : Bool := c = ' ' || c = '\n' || c = '\t' || c = '\r'

/-- The tokens of a text. -/
def scan? (cs : List Char) : Option (List DocumentToken) :=
  match cs with
  | [] => some []
  | '"' :: rest =>
    match h : quoted? rest with
    | none => none
    | some (t, rest') =>
      have := length_lt_of_quoted? h
      (scan? rest').map (text t :: ·)
  | '\x7b' :: rest => (scan? rest).map (opening :: ·)
  | '\x7d' :: rest => (scan? rest).map (closing :: ·)
  | ':' :: rest => (scan? rest).map (colon :: ·)
  | ',' :: rest => (scan? rest).map (comma :: ·)
  | c :: rest => if isBlank c then scan? rest else none
termination_by cs.length

end DocumentToken

/-! ## Documents -/

/-- The classes of a document with their attributes and the names of the types, as written. -/
structure Document where
  /-- The classes. -/
  classes : List (String × List (String × String))
  deriving DecidableEq, Repr

namespace Document

open DocumentToken

/-- The members of an object of strings up to its end, with the tokens after it. The tokens begin
with a member. -/
def attributes? : List DocumentToken →
    Option (List (String × String) × List DocumentToken)
  | .text k :: .colon :: .text v :: .closing :: rest =>
    some ([(String.ofList k, String.ofList v)], rest)
  | .text k :: .colon :: .text v :: .comma :: rest =>
    (attributes? rest).map fun t => ((String.ofList k, String.ofList v) :: t.1, t.2)
  | _ => none

/-- The object of strings after its start, with the tokens after it. -/
def attributeObject? : List DocumentToken →
    Option (List (String × String) × List DocumentToken)
  | .closing :: rest => some ([], rest)
  | tokens => attributes? tokens

theorem length_lt_of_attributes? {ts rest : List DocumentToken} {as : List (String × String)}
    (h : attributes? ts = some (as, rest)) : rest.length < ts.length := by
  fun_induction attributes? ts generalizing as rest with
  | case1 k v tail =>
    simp only [Option.some.injEq, Prod.mk.injEq] at h
    simp only [← h.2, List.length_cons]
    omega
  | case2 k v tail ih =>
    obtain ⟨u, hu, hut⟩ := Option.map_eq_some_iff.1 h
    have := ih hu
    obtain ⟨-, rfl⟩ := Prod.mk.inj hut
    simp only [List.length_cons]
    omega
  | case3 => exact nomatch h

theorem length_lt_of_attributeObject? {ts rest : List DocumentToken}
    {as : List (String × String)} (h : attributeObject? ts = some (as, rest)) :
    rest.length < ts.length := by
  unfold attributeObject? at h
  split at h
  next tail =>
    simp only [Option.some.injEq, Prod.mk.injEq] at h
    simp [← h.2]
  next => exact length_lt_of_attributes? h

/-- The members of an object of objects up to the end of the tokens. The tokens begin with a
member. -/
def classes? (tokens : List DocumentToken) :
    Option (List (String × List (String × String))) :=
  match tokens with
  | .text k :: .colon :: .opening :: rest =>
    match h : attributeObject? rest with
    | some (as, [.closing]) => some [(String.ofList k, as)]
    | some (as, .comma :: rest') =>
      have := length_lt_of_attributeObject? h
      (classes? rest').map ((String.ofList k, as) :: ·)
    | _ => none
  | _ => none
termination_by tokens.length
decreasing_by
  simp only [List.length_cons] at this ⊢
  omega

/-- The document of some tokens. -/
def ofTokens? : List DocumentToken → Option Document
  | [.opening, .closing] => some ⟨[]⟩
  | .opening :: rest => (classes? rest).map Document.mk
  | _ => none

/-- Reads the text of a document. -/
def parse? (text : String) : Option Document := (scan? text.toList).bind ofTokens?

/-- Reads a document from bytes, which have to be UTF-8. -/
def ofBytes? (data : ByteArray) : Option Document := (String.fromUTF8? data).bind parse?

/-- The names of the types by class and attribute. A repeated class takes the place of the whole
earlier one. -/
def types (d : Document) : Std.ExtTreeMap String (Std.ExtTreeMap String String) :=
  .ofList (d.classes.map fun c => (c.1, Std.ExtTreeMap.ofList c.2))

end Document

end BuildPackage
