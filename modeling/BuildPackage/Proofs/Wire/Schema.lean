import BuildPackage.Proofs.Outcome
import BuildPackage.Proofs.Wire.Reading

set_option relaxedAutoImplicit false
set_option autoImplicit false

/-!
# Round trips of messages

A message is written field by field and read occurrence by occurrence, into a message that is blank
at first. What a field writes are occurrences of that field alone, and reading them copies the part
that the field holds. So a message type round-trips if its fields copy all of its parts, one after
another, from any message into the blank one. Nothing but that has to be said of a single type.

## Main definitions

* `BuildPackage.Wire.Field.Occurs` — occurrences of a field and what reading them does.
* `BuildPackage.Wire.Field.Carries` — what a field writes of one message is read into another.
* `BuildPackage.Wire.Schema.Passes` — reading fields goes on over some bytes.
* `BuildPackage.Wire.Schema.RoundTrips` — every message that is written is read again.

## Main results

* `BuildPackage.Wire.Schema.RoundTrips.of_carried` — fields that carry all parts make a round trip.
* `BuildPackage.Wire.Schema.takes_readNested` — a nested message is read again from its bytes.
-/

namespace BuildPackage.Wire

variable {μ α : Type}

/-! ## Occurrences of a field -/

/-- Bytes that are occurrences of a field, each a key with a value, and what reading them one after
another makes of a message. -/
inductive Field.Occurs (f : Field μ) (depth : Nat) : List UInt8 → μ → μ → Prop where
  /-- No occurrence leaves the message as it is. -/
  | none (m : μ) : f.Occurs depth [] m m
  /-- One occurrence and then others. -/
  | cons {value rest : List UInt8} {wireType : WireType} {m m' m'' : μ}
      (head : (f.read depth wireType m).Takes value m') (tail : f.Occurs depth rest m' m'') :
      f.Occurs depth (Key.bytes ⟨f.number, wireType⟩ ++ value ++ rest) m m''

lemma Field.Occurs.one {f : Field μ} {depth : Nat} {value : List UInt8} {wireType : WireType}
    {m m' : μ} (h : (f.read depth wireType m).Takes value m') :
    f.Occurs depth (Key.bytes ⟨f.number, wireType⟩ ++ value) m m' := by
  rw [← List.append_nil (_ ++ _)]
  exact .cons h (.none m')

/-! ## Reading fields -/

namespace Schema

variable {s : Schema μ} {f : Field μ} {depth : Nat} {bs bs' : List UInt8} {m m' m'' : μ}

/-- The field of a number is found, and the number fits into a key. -/
structure Finds (s : Schema μ) (f : Field μ) : Prop where
  /-- The first field of that number is this one. -/
  find : s.fields.find? (fun g => g.number = f.number) = some f
  /-- The number is not zero. -/
  pos : 0 < f.number
  /-- The number is not too large. -/
  lt : f.number < 2 ^ 29

/-- Reading fields goes on over some bytes, whatever bytes follow, and takes one message to another.
-/
def Passes (s : Schema μ) (depth : Nat) (bs : List UInt8) (m m' : μ) : Prop :=
  ∀ (stop : Nat) (origin c : Cursor) (hc : c.remaining ≤ origin.remaining) (tail : List UInt8),
    c.unread = bs ++ tail → stop ≤ tail.length → ∃ c' hc', c'.unread = tail ∧
      s.readFieldsFrom depth stop origin m c hc = s.readFieldsFrom depth stop origin m' c' hc'

lemma passes_nil (s : Schema μ) (depth : Nat) (m : μ) : s.Passes depth [] m m :=
  fun _ _ c hc _ htail _ => ⟨c, hc, htail, rfl⟩

lemma Passes.append (h : s.Passes depth bs m m') (h' : s.Passes depth bs' m' m'') :
    s.Passes depth (bs ++ bs') m m'' := by
  intro stop origin c hc tail htail hstop
  obtain ⟨c₁, hc₁, htail₁, hread₁⟩ := h stop origin c hc (bs' ++ tail)
    (by rw [htail, List.append_assoc]) (by rw [List.length_append]; omega)
  obtain ⟨c₂, hc₂, htail₂, hread₂⟩ := h' stop origin c₁ hc₁ tail htail₁ hstop
  exact ⟨c₂, hc₂, htail₂, hread₁.trans hread₂⟩

/-- The value after a key is read by the field of its number. -/
lemma takes_readField {wireType : WireType} (hf : s.Finds f)
    (h : (f.read depth wireType m).Takes bs m') :
    (s.readField depth ⟨f.number, wireType⟩ m).Takes bs m' := by
  unfold readField
  rw [hf.find]
  exact h.within s.name f.name

/-- One turn of the loop that reads fields: a key, the value after it, and then the rest. -/
lemma readFieldsFrom_eq {stop : Nat} {origin c : Cursor} {hc : c.remaining ≤ origin.remaining}
    {k : Step Key c} {t : Step μ k.rest} (hmore : stop < c.remaining) (hk : readKey c = .ok k)
    (ht : s.readField depth k.value m k.rest = .ok t) :
    s.readFieldsFrom depth stop origin m c hc =
      s.readFieldsFrom depth stop origin t.value t.rest
        (Nat.le_trans t.le (Nat.le_trans k.le hc)) := by
  rw [readFieldsFrom, if_neg (by omega)]
  split
  next hk' =>
    rw [hk] at hk'
    cases hk'
  next hk' =>
    rw [hk] at hk'
    obtain rfl := Except.ok.inj hk'
    rw [ht]

/-- One occurrence of a field is passed over by one turn of the loop. -/
lemma passes_occurrence {wireType : WireType} (hf : s.Finds f)
    (h : (f.read depth wireType m).Takes bs m') :
    s.Passes depth (Key.bytes ⟨f.number, wireType⟩ ++ bs) m m' := by
  intro stop origin c hc tail htail hstop
  rw [List.append_assoc] at htail
  obtain ⟨k, hk, hvalue, hrest⟩ := takes_readKey (k := ⟨f.number, wireType⟩) hf.pos hf.lt c _ htail
  obtain ⟨t, ht, rfl, htail'⟩ := takes_readField hf h k.rest tail hrest
  have hmore : stop < c.remaining := by
    have hpos := Key.length_bytes_pos ⟨f.number, wireType⟩
    rw [← c.length_unread, htail, List.length_append, List.length_append]
    omega
  rw [← hvalue] at ht
  exact ⟨t.rest, _, htail', readFieldsFrom_eq hmore hk ht⟩

/-- Reading fields goes on over all occurrences of a field. -/
lemma passes_of_occurs (hf : s.Finds f) (h : f.Occurs depth bs m m') : s.Passes depth bs m m' := by
  induction h with
  | none m => exact passes_nil s depth m
  | cons head _ ih => exact (passes_occurrence hf head).append ih

/-- What is passed over to the end is read. -/
lemma Passes.readFields_eq_ok (h : s.Passes depth bs m m') {c : Cursor} {tail : List UInt8}
    (htail : c.unread = bs ++ tail) :
    ∃ t, s.readFields depth tail.length m c = .ok t ∧ t.value = m' ∧ t.rest.unread = tail := by
  obtain ⟨c', hc', htail', hread⟩ :=
    h tail.length c c c.remaining_le_self tail htail (Nat.le_refl _)
  refine ⟨⟨m', c', hc'⟩, ?_, rfl, htail'⟩
  have hstop : c'.remaining ≤ tail.length := by
    exact Nat.le_of_eq (by rw [← c'.length_unread, htail'])
  rw [readFields, hread, readFieldsFrom, if_pos hstop]

/-- A nested message is read again from its bytes after their length.

**Proof sketch.** The length leaves as many bytes unread as follow the message, so reading its
fields stops exactly after the last of them. -/
theorem takes_readNested (h : s.Passes depth bs m m') (hbs : bs.length < 2 ^ 64) :
    (s.readNested m (depth + 1)).Takes (delimited bs) m' := by
  unfold readNested
  refine (takes_readVarint hbs).bind ?_
  intro c tail htail
  obtain ⟨t, ht, rfl, hrest⟩ := h.readFields_eq_ok htail
  have hremaining : c.remaining = bs.length + tail.length := by
    rw [← c.length_unread, htail, List.length_append]
  have hstop : c.remaining - bs.length = tail.length := by omega
  have hend : t.rest.remaining = tail.length := by
    rw [← t.rest.length_unread, hrest]
  have hend' : (Reader.remaining >>= fun n =>
      if n = tail.length then pure t.value else .fail .lengthExceeded) t.rest =
      .ok ⟨t.value, t.rest, t.rest.remaining_le_self⟩ := by
    rw [Reader.bind_remaining, if_pos hend]
    rfl
  rw [Reader.bind_remaining, if_neg (by omega), hstop]
  exact ⟨_, Reader.bind_eq_ok ht hend', rfl, hrest⟩

/-- Every message is read again from its bytes into the blank message, as long as a length of 64 bits
can count them and messages may be nested deeply enough. -/
def RoundTrips (s : Schema μ) (nesting : Nat) : Prop :=
  ∀ (m : μ) (depth : Nat), nesting ≤ depth → (s.write m).length < 2 ^ 64 →
    s.Passes depth (s.write m) s.blank m

end Schema

/-! ## Parts of a message -/

/-- A list in a message that is empty and can be filled without a trace in the rest. -/
structure Part.Collects (p : Part μ (List α)) (m : μ) : Prop where
  /-- The list is empty. -/
  set_nil : p.set [] m = m
  /-- What is put there is there. -/
  get_set : ∀ xs, p.get (p.set xs m) = xs
  /-- What was there before is gone. -/
  set_set : ∀ xs ys, p.set ys (p.set xs m) = p.set ys m

namespace Field

variable {number : Nat} {name : String} {depth : Nat} {m acc : μ}

/-- What a field writes of one message, as long as a length of 64 bits can count it, is read into
another message. -/
def Carries (f : Field μ) (depth : Nat) (m acc acc' : μ) : Prop :=
  (f.write m).length < 2 ^ 64 → f.Occurs depth (f.write m) acc acc'

lemma Occurs.append {f : Field μ} {bs bs' : List UInt8} {m m' m'' : μ}
    (h : f.Occurs depth bs m m') (h' : f.Occurs depth bs' m' m'') :
    f.Occurs depth (bs ++ bs') m m'' := by
  induction h with
  | none m => exact h'
  | cons head _ ih =>
    rw [List.append_assoc]
    exact .cons head (ih h')

/-- A field that writes the elements of a list one by one carries the list, if one more occurrence
puts one more element at its end.

**Proof sketch.** Induction on the elements that are still to come, for all lists that are there
already. -/
lemma Carries.of_collects {f : Field μ} {write : α → List UInt8} {p : Part μ (List α)}
    (hp : p.Collects acc) (hwrite : f.write m = (p.get m).flatMap write)
    (hone : ∀ x m', (write x).length < 2 ^ 64 →
      f.Occurs depth (write x) m' (p.set (p.get m' ++ [x]) m')) :
    f.Carries depth m acc (p.set (p.get m) acc) := by
  have hall : ∀ ys xs, (ys.flatMap write).length < 2 ^ 64 →
      f.Occurs depth (ys.flatMap write) (p.set xs acc) (p.set (xs ++ ys) acc) := by
    intro ys
    induction ys with
    | nil =>
      intro xs _
      rw [List.append_nil]
      exact .none _
    | cons y ys ih =>
      intro xs h
      rw [List.flatMap_cons, List.length_append] at h
      have hhead := hone y (p.set xs acc) (by omega)
      have hrest := ih (xs ++ [y]) (by omega)
      rw [hp.get_set, hp.set_set] at hhead
      rw [List.append_assoc, List.singleton_append] at hrest
      exact hhead.append hrest
  intro h
  rw [hwrite] at h ⊢
  have hm := hall (p.get m) [] h
  rwa [hp.set_nil, List.nil_append] at hm

/-- The right wire type is expected. -/
lemma takes_expect (w : WireType) : (expect w w).Takes [] () := by
  rw [expect, if_pos rfl]
  exact Reader.takes_pure ()

/-! ### Values -/

section Scalar

variable {s : Scalar α}

/-- One value is read and then put somewhere. -/
lemma takes_value (hs : s.RoundTrips) {a : α} (h : (writeValue number s a).length < 2 ^ 64)
    (g : α → μ) : (do expect s.wireType s.wireType; return g (← s.read)).Takes (s.write a) (g a) := by
  rw [writeValue, List.length_append] at h
  exact (takes_expect s.wireType).bind ((hs a (by omega)).map g)

lemma Carries.plain [DecidableEq α] {default : α} {p : Part μ α} (hs : s.RoundTrips)
    (hblank : p.set default acc = acc) :
    (Field.plain number name s default p).Carries depth m acc (p.set (p.get m) acc) := by
  intro h
  simp only [Field.plain] at h ⊢
  split_ifs at h ⊢ with hdefault
  · rw [hdefault, hblank]
    exact .none acc
  · exact .one (takes_value hs h fun a => p.set a acc)

lemma Carries.optional {p : Part μ (Option α)} (hs : s.RoundTrips)
    (hblank : p.set none acc = acc) :
    (Field.optional number name s p).Carries depth m acc (p.set (p.get m) acc) := by
  intro h
  simp only [Field.optional] at h ⊢
  cases hget : p.get m with
  | none =>
    rw [hblank]
    exact .none acc
  | some a =>
    rw [hget] at h
    exact .one (takes_value hs h fun a => p.set (some a) acc)

lemma Carries.repeated {p : Part μ (List α)} (hs : s.RoundTrips) (hp : p.Collects acc) :
    (Field.repeated number name s p).Carries depth m acc (p.set (p.get m) acc) :=
  .of_collects hp rfl fun _ m' hx =>
    .one (takes_value hs hx fun a => p.set (p.get m' ++ [a]) m')

end Scalar

/-! ### Nested messages -/

section Nested

variable {s : Schema α} {nesting : Nat}

/-- One nested message is read into the blank one and then put somewhere. -/
lemma takes_nested (hs : s.RoundTrips nesting) (hdepth : nesting < depth) {a : α}
    (h : (writeNested number s a).length < 2 ^ 64) (g : α → μ) :
    (do expect .lengthDelimited .lengthDelimited
        return g (← s.readNested s.blank depth)).Takes (delimited (s.write a)) (g a) := by
  have hlength : (s.write a).length < 2 ^ 64 := by
    rw [writeNested, delimited, List.length_append, List.length_append] at h
    omega
  obtain ⟨d, rfl⟩ : ∃ d, depth = d + 1 := ⟨depth - 1, by omega⟩
  have hread := Schema.takes_readNested (hs a d (by omega) hlength) hlength
  exact (takes_expect .lengthDelimited).bind (hread.map g)

lemma Carries.message {p : Part μ (Option α)} (hs : s.RoundTrips nesting) (hdepth : nesting < depth)
    (hnone : p.get acc = none) (hblank : p.set none acc = acc) :
    (Field.message number name s p).Carries depth m acc (p.set (p.get m) acc) := by
  intro h
  simp only [Field.message] at h ⊢
  cases hget : p.get m with
  | none =>
    rw [hblank]
    exact .none acc
  | some a =>
    rw [hget] at h
    have hread := takes_nested hs hdepth h fun a => p.set (some a) acc
    refine .one ?_
    simp only [hnone]
    exact hread

lemma Carries.messages {p : Part μ (List α)} (hs : s.RoundTrips nesting) (hdepth : nesting < depth)
    (hp : p.Collects acc) :
    (Field.messages number name s p).Carries depth m acc (p.set (p.get m) acc) :=
  .of_collects hp rfl fun _ m' hx =>
    .one (takes_nested hs hdepth hx fun a => p.set (p.get m' ++ [a]) m')

end Nested

end Field

/-! ## Whole messages -/

/-- Fields that carry their parts of a message over into another one, one after another. -/
inductive Carried (depth : Nat) (m : μ) : List (Field μ) → μ → μ → Prop where
  /-- No field carries nothing. -/
  | nil (acc : μ) : Carried depth m [] acc acc
  /-- One field carries its part, and then others theirs. -/
  | cons {f : Field μ} {fields : List (Field μ)} {acc acc' acc'' : μ}
      (head : f.Carries depth m acc acc') (tail : Carried depth m fields acc' acc'') :
      Carried depth m (f :: fields) acc acc''

namespace Schema

variable {s : Schema μ} {depth : Nat} {m acc acc' : μ}

/-- Reading goes on over what fields write that carry their parts. -/
lemma passes_of_carried {fields : List (Field μ)} (h : Carried depth m fields acc acc')
    (hf : ∀ f ∈ fields, s.Finds f) (hlength : (fields.flatMap (·.write m)).length < 2 ^ 64) :
    s.Passes depth (fields.flatMap (·.write m)) acc acc' := by
  induction h with
  | nil acc => exact passes_nil s depth acc
  | cons head _ ih =>
    rw [List.forall_mem_cons] at hf
    rw [List.flatMap_cons, List.length_append] at hlength
    exact (passes_of_occurs hf.1 (head (by omega))).append (ih hf.2 (by omega))

/-- In a list of fields with different numbers that fit into a key, each of them is found. -/
lemma finds_of_nodup (hn : (s.fields.map Field.number).Nodup)
    (hr : ∀ n ∈ s.fields.map Field.number, 0 < n ∧ n < 2 ^ 29) : ∀ f ∈ s.fields, s.Finds f := by
  intro f hf
  obtain ⟨hpos, hlt⟩ := hr f.number (List.mem_map_of_mem hf)
  exact ⟨(Outcome.find?_eq_some_iff_of_nodup hn f.number f).2 ⟨hf, rfl⟩, hpos, hlt⟩

/-- A message type round-trips if its fields have different numbers and carry every message over
into the blank one. -/
theorem RoundTrips.of_carried {nesting : Nat} (hn : (s.fields.map Field.number).Nodup)
    (hr : ∀ n ∈ s.fields.map Field.number, 0 < n ∧ n < 2 ^ 29)
    (h : ∀ m depth, nesting ≤ depth → Carried depth m s.fields s.blank m) :
    s.RoundTrips nesting :=
  fun m depth hdepth hlength =>
    passes_of_carried (h m depth hdepth) (finds_of_nodup hn hr) hlength

end Schema

end BuildPackage.Wire
