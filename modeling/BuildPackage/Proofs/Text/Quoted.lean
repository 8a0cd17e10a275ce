import BuildPackage.Text.Quoted
import Mathlib.Data.List.TakeWhile

set_option relaxedAutoImplicit false
set_option autoImplicit false

/-!
# Reading quoted text

What is written between quotes can be read off again, whatever follows it: a backslash begins an
escape, the letter behind it tells which one, and a bare quote ends the text. It does not matter
which characters are written by their code points, as such an escape ends with a mark that is no
digit.

## Main definitions

* `BuildPackage.ReadsOff` — a way of writing that can be read off the front of a text.
* `BuildPackage.Quoted.Writes` — the ways of writing one character.

## Main results

* `BuildPackage.ReadsOff.closed` — values one after another, up to a closing mark.
* `BuildPackage.Quoted.Writes.readsOff` — a character is read off, however it is written.
* `BuildPackage.Quoted.readsOff_text`, `BuildPackage.Quoted.readsOff_list` — quoted texts and lists
  of them are read off.
-/

namespace BuildPackage

/-! ## Reading off -/

/-- A way of writing that can be read off the front of any text: what stands there determines the
value and what follows it. -/
def ReadsOff {α : Type} (write : α → List Char) : Prop :=
  ∀ a b rest rest', write a ++ rest = write b ++ rest' → a = b ∧ rest = rest'

/-- What stands in front of a mark is found again, if the mark is not in it. -/
lemma eq_of_append_mark {mark : Char} {xs ys rest rest' : List Char} (hx : mark ∉ xs)
    (hy : mark ∉ ys) (h : xs ++ mark :: rest = ys ++ mark :: rest') : xs = ys ∧ rest = rest' := by
  have htake : ∀ {zs : List Char} (after : List Char), mark ∉ zs →
      (zs ++ mark :: after).takeWhile (· != mark) = zs := by
    intro zs after hz
    have hne : ∀ c ∈ zs, (c != mark) = true := by
      intro c hc
      rw [bne_iff_ne]
      rintro rfl
      exact hz hc
    rw [List.takeWhile_append_of_pos hne]
    simp
  obtain rfl : xs = ys := by rw [← htake rest hx, h, htake rest' hy]
  exact ⟨rfl, (List.cons.inj (List.append_cancel_left h)).2⟩

namespace ReadsOff

variable {α : Type} {write : α → List Char} (h : ReadsOff write)
include h

lemma injective : Function.Injective write := by
  intro a b hab
  exact (h a b [] [] (by rw [hab])).1

/-- A mark in front of a value is read off with it. -/
lemma marked (mark : List Char) : ReadsOff fun a => mark ++ write a := by
  intro a b rest rest' heq
  simp only [List.append_assoc] at heq
  exact h a b rest rest' (List.append_cancel_left heq)

/-- A mark behind a value is read off with it. -/
lemma followed (mark : List Char) : ReadsOff fun a => write a ++ mark := by
  intro a b rest rest' heq
  simp only [List.append_assoc] at heq
  obtain ⟨rfl, hrest⟩ := h a b _ _ heq
  exact ⟨rfl, List.append_cancel_left hrest⟩

/-- One value behind another is read off. -/
lemma andThen {β : Type} {write' : β → List Char} (h' : ReadsOff write') :
    ReadsOff fun p : α × β => write p.1 ++ write' p.2 := by
  intro p q rest rest' heq
  simp only [List.append_assoc] at heq
  obtain ⟨hfirst, htail⟩ := h _ _ _ _ heq
  obtain ⟨hsecond, hrest⟩ := h' _ _ _ _ htail
  exact ⟨Prod.ext hfirst hsecond, hrest⟩

/-- Values that follow one another are read off up to a mark that begins none of them.

**Proof sketch.** Induction on the values: the mark tells whether another one follows. -/
theorem closed {closing : Char} (hne : ∀ a rest rest', write a ++ rest ≠ closing :: rest') :
    ReadsOff fun as : List α => as.flatMap write ++ [closing] := by
  intro as
  induction as with
  | nil =>
    intro bs rest rest' heq
    cases bs with
    | nil => exact ⟨rfl, by simpa using heq⟩
    | cons b bs =>
      simp only [List.flatMap_nil, List.flatMap_cons, List.nil_append, List.append_assoc,
        List.singleton_append] at heq
      exact absurd heq.symm (hne b _ rest)
  | cons a as ih =>
    intro bs rest rest' heq
    cases bs with
    | nil =>
      simp only [List.flatMap_nil, List.flatMap_cons, List.nil_append, List.append_assoc,
        List.singleton_append] at heq
      exact absurd heq (hne a _ rest')
    | cons b bs =>
      simp only [List.flatMap_cons, List.append_assoc] at heq
      obtain ⟨rfl, htail⟩ := h a b _ _ heq
      obtain ⟨rfl, rfl⟩ := ih bs rest rest' (by simpa using htail)
      exact ⟨rfl, rfl⟩

end ReadsOff

namespace Quoted

/-! ## Digits -/

/-- Different numbers have different hexadecimal digits.

**Proof sketch.** Strong induction: the last digit is the remainder by 16, and the digits before it
are those of the quotient. -/
lemma toDigits_injective : Function.Injective (Nat.toDigits 16) := by
  have hdigit : ∀ a < 16, ∀ b < 16, Nat.digitChar a = Nat.digitChar b → a = b := by decide
  intro m
  induction m using Nat.strongRecOn with
  | _ m ih =>
    intro n h
    rw [Nat.toDigits_eq_if (by decide), Nat.toDigits_eq_if (n := n) (by decide)] at h
    split_ifs at h with hm hn hn
    · exact hdigit m hm n hn (List.singleton_inj.1 h)
    · simpa [Nat.toDigits_ne_nil] using congrArg List.length h
    · simpa [Nat.toDigits_ne_nil] using congrArg List.length h
    · obtain ⟨hquot, hrem⟩ := List.append_inj' h rfl
      have := ih (m / 16) (by omega) hquot
      have := hdigit _ (m.mod_lt (by decide)) _ (n.mod_lt (by decide)) (List.singleton_inj.1 hrem)
      omega

/-- A closing brace is no digit. -/
lemma brace_notMem_toDigits (n : Nat) : '\x7d' ∉ Nat.toDigits 16 n := by
  have hdigit : ∀ a < 16, '\x7d' ≠ Nat.digitChar a := by decide
  induction n using Nat.strongRecOn with
  | _ n ih =>
    rw [Nat.toDigits_eq_if (by decide)]
    split_ifs with h
    · rw [List.mem_singleton]
      exact hdigit n h
    · rw [List.mem_append, List.mem_singleton, not_or]
      exact ⟨ih (n / 16) (by omega), hdigit _ (n.mod_lt (by decide))⟩

/-! ## Characters -/

/-- The characters with a short escape, each with the letter of its escape. -/
def shorts : List (Char × Char) :=
  [('\x00', '0'), ('\t', 't'), ('\r', 'r'), ('\n', 'n'), ('\\', '\\'), ('"', '"')]

lemma mem_shorts_of_short? {c s : Char} (h : short? c = some s) : (c, s) ∈ shorts := by
  unfold short? at h
  split at h <;> simp_all [shorts, eq_comm]

/-- The letter of a short escape belongs to one character. -/
lemma eq_of_short? {c d s : Char} (h : short? c = some s) (h' : short? d = some s) : c = d := by
  have hletters : ∀ p ∈ shorts, ∀ q ∈ shorts, p.2 = q.2 → p.1 = q.1 := by decide
  exact hletters _ (mem_shorts_of_short? h) _ (mem_shorts_of_short? h') rfl

/-- The letter of a code point is not that of a short escape. -/
lemma short?_ne_u (c : Char) : short? c ≠ some 'u' := by
  intro h
  have hletters : ∀ p ∈ shorts, p.2 ≠ 'u' := by decide
  exact hletters _ (mem_shorts_of_short? h) rfl

/-- How a character may be written: by its short escape if it has one, and otherwise as itself or by
its code point. -/
inductive Writes : Char → List Char → Prop
  /-- A backslash and the letter of the escape. -/
  | short {c s : Char} (h : short? c = some s) : Writes c ['\\', s]
  /-- The character itself. -/
  | literal {c : Char} (h : short? c = none) : Writes c [c]
  /-- The hexadecimal digits of the code point, between braces. -/
  | codePoint {c : Char} (h : short? c = none) :
      Writes c (['\\', 'u', '\x7b'] ++ Nat.toDigits 16 c.toNat ++ ['\x7d'])

lemma writes_escape (c : Char) : Writes c (escape c) := by
  unfold escape
  split
  next s hs => exact .short hs
  next hs =>
    split_ifs
    · exact .literal hs
    · exact .codePoint hs

/-- What is written is read off as one character, whichever way it is written.

**Proof sketch.** A backslash stands in front of every escape and never for itself. The letter behind
it tells a short escape, and a code point ends with a brace, which is no digit. -/
theorem Writes.readsOff {c d : Char} {cs ds rest rest' : List Char} (h : Writes c cs)
    (h' : Writes d ds) (heq : cs ++ rest = ds ++ rest') : c = d ∧ rest = rest' := by
  have hbackslash : short? '\\' ≠ none := by decide
  cases h with
  | short hc =>
    cases h' with
    | short hd =>
      simp only [List.cons_append, List.nil_append, List.cons.injEq, true_and] at heq
      obtain ⟨rfl, rfl⟩ := heq
      exact ⟨eq_of_short? hc hd, rfl⟩
    | literal hd =>
      obtain ⟨rfl, -⟩ := List.cons.inj heq
      exact absurd hd hbackslash
    | codePoint hd =>
      simp only [List.cons_append, List.nil_append, List.cons.injEq, true_and] at heq
      exact absurd (heq.1 ▸ hc) (short?_ne_u c)
  | literal hc =>
    cases h' with
    | literal hd => exact List.cons.inj heq
    | short hd | codePoint hd =>
      obtain ⟨rfl, -⟩ := List.cons.inj heq
      exact absurd hc hbackslash
  | codePoint hc =>
    cases h' with
    | short hd =>
      simp only [List.cons_append, List.nil_append, List.cons.injEq, true_and] at heq
      exact absurd (heq.1 ▸ hd) (short?_ne_u d)
    | literal hd =>
      obtain ⟨rfl, -⟩ := List.cons.inj heq
      exact absurd hd hbackslash
    | codePoint hd =>
      simp only [List.append_assoc, List.cons_append, List.nil_append, List.cons.injEq,
        true_and] at heq
      obtain ⟨hdigits, hrest⟩ :=
        eq_of_append_mark (brace_notMem_toDigits _) (brace_notMem_toDigits _) heq
      exact ⟨Char.toNat_inj.1 (toDigits_injective hdigits), hrest⟩

/-- No character is written with a bare quote in front. -/
lemma Writes.ne_quote {c : Char} {cs : List Char} (h : Writes c cs) (rest rest' : List Char) :
    cs ++ rest ≠ '"' :: rest' := by
  intro heq
  have hquote : short? '"' ≠ none := by decide
  cases h with
  | literal hc =>
    obtain ⟨rfl, -⟩ := List.cons.inj heq
    exact hquote hc
  | short hc | codePoint hc => exact absurd (List.cons.inj heq).1 (by decide)

/-! ## Texts -/

lemma readsOff_escape : ReadsOff escape :=
  fun c d _ _ => (writes_escape c).readsOff (writes_escape d)

/-- A quoted text is read off. -/
theorem readsOff_text : ReadsOff text := by
  have hchars := (readsOff_escape.closed fun c => (writes_escape c).ne_quote).marked ['"']
  intro s t rest rest' heq
  obtain ⟨hst, hrest⟩ := hchars s.toList t.toList rest rest' (by simpa [text] using heq)
  exact ⟨String.toList_inj.1 hst, hrest⟩

/-- The texts of a list behind its opening bracket. -/
def listed : List String → List Char
  | [] => [']']
  | s :: ss => text s ++ (ss.flatMap (fun t => [',', ' '] ++ text t) ++ [']'])

lemma list_eq (ss : List String) : list ss = '[' :: listed ss := by
  have hjoin : ∀ s ss, List.intercalate [',', ' '] ((s :: ss).map text) =
      text s ++ ss.flatMap (fun t => [',', ' '] ++ text t) := by
    intro s ss
    induction ss generalizing s with
    | nil => simp
    | cons t ss ih =>
      rw [List.map_cons, List.map_cons, List.intercalate_cons_cons, ← List.map_cons, ih]
      simp
  cases ss with
  | nil => rfl
  | cons s ss => simp only [list, listed, hjoin, List.cons_append, List.append_assoc]

/-- A bracketed list of quoted texts is read off. -/
theorem readsOff_list : ReadsOff list := by
  have hrest : ReadsOff fun ss : List String =>
      ss.flatMap (fun t => [',', ' '] ++ text t) ++ [']'] :=
    (readsOff_text.marked [',', ' ']).closed (by simp)
  have hlisted := readsOff_text.andThen hrest
  have hquote : ∀ s ss rest rest', listed (s :: ss) ++ rest ≠ ']' :: rest' := by simp [listed, text]
  intro ss ts rest rest' heq
  rw [list_eq, list_eq, List.cons_append, List.cons_append] at heq
  replace heq := (List.cons.inj heq).2
  match ss, ts with
  | [], [] => exact ⟨rfl, (List.cons.inj heq).2⟩
  | [], t :: ts => exact absurd heq.symm (hquote t ts _ _)
  | s :: ss, [] => exact absurd heq (hquote s ss _ _)
  | s :: ss, t :: ts =>
    obtain ⟨hsame, hrest⟩ := hlisted (s, ss) (t, ts) rest rest' heq
    obtain ⟨rfl, rfl⟩ := Prod.mk.inj hsame
    exact ⟨rfl, hrest⟩

end Quoted

end BuildPackage
