import BuildPackage.Error
import Mathlib.Data.List.Forall2
import Mathlib.Data.List.Nodup
import Mathlib.Data.List.Perm.Basic

set_option relaxedAutoImplicit false
set_option autoImplicit false

/-!
# Outcomes

A reading either succeeds with a value or fails with an error. The lemmas here say what it takes for
a composed reading to succeed: a sequence succeeds if all its parts do, and reading a list succeeds
if every element does, with one result for each element in order. Two readings are compared part by
part as well.

## Main definitions

* `BuildPackage.Outcome.Agree` — readings that fail alike or succeed with related results.
* `BuildPackage.Outcome.FirstRefused` — the first element of a list that is refused.
* `BuildPackage.Outcome.FailsOnly` — a reading whose errors are all of one sort.

## Main results

* `BuildPackage.Outcome.bind_eq_ok_iff` — what a sequence of two readings succeeds with.
* `BuildPackage.Outcome.isOk_bind_iff` — when a sequence of independent readings succeeds.
* `BuildPackage.Outcome.mapM_eq_ok_iff` — reading a list relates its elements one by one.
* `BuildPackage.Outcome.isOk_mapM_iff` — reading a list succeeds if every element does.
* `BuildPackage.Outcome.mapM_eq_error_iff` — reading a list fails at the first element refused.
* `BuildPackage.Outcome.foldlM_eq_error_iff` — a loop fails at one of its elements.
* `BuildPackage.Outcome.foldlM_map_map` — a loop over images of elements and states.
* `BuildPackage.Outcome.mapM_congr`, `BuildPackage.Outcome.foldlM_congr` — lists that read alike.
* `BuildPackage.Outcome.find?_eq_some_iff_of_nodup` — a search finds the element of a key.
-/

namespace BuildPackage.Outcome

variable {ε ε' α β : Type}

/-! ## Single readings -/

/-- A sequence succeeds exactly if its first part does and its second part does after that. -/
@[simp] lemma bind_eq_ok_iff {x : Except ε α} {f : α → Except ε β} {b : β} :
    x >>= f = .ok b ↔ ∃ a, x = .ok a ∧ f a = .ok b := by
  cases x with
  | error e => simp [bind, Except.bind]
  | ok a => simp [bind, Except.bind]

@[simp] lemma map_eq_ok_iff {x : Except ε α} {f : α → β} {b : β} :
    f <$> x = .ok b ↔ ∃ a, x = .ok a ∧ f a = b := by
  cases x with
  | error e => simp [Functor.map, Except.map]
  | ok a => simp [Functor.map, Except.map]

@[simp] lemma pure_eq_ok_iff {a b : α} : (pure a : Except ε α) = .ok b ↔ a = b := by
  simp [pure, Except.pure]

@[simp] lemma mapError_eq_ok_iff {x : Except ε α} {f : ε → ε'} {a : α} :
    x.mapError f = .ok a ↔ x = .ok a := by
  cases x <;> simp [Except.mapError]

/-- A sequence fails if its first part does, or if its second part does after that. -/
lemma bind_eq_error_iff {x : Except ε α} {f : α → Except ε β} {e : ε} :
    x >>= f = .error e ↔ x = .error e ∨ ∃ a, x = .ok a ∧ f a = .error e := by
  cases x with
  | error e' => simp [bind, Except.bind]
  | ok a => simp [bind, Except.bind]

lemma map_eq_error_iff {x : Except ε α} {f : α → β} {e : ε} :
    f <$> x = .error e ↔ x = .error e := by
  cases x with
  | error e' => simp [Functor.map, Except.map]
  | ok a => simp [Functor.map, Except.map]

lemma mapError_eq_error_iff {x : Except ε α} {f : ε → ε'} {e : ε'} :
    x.mapError f = .error e ↔ ∃ e', x = .error e' ∧ f e' = e := by
  cases x <;> simp [Except.mapError]

/-- A function that changes no result of a reading may be applied to it. -/
lemma map_eq_map_map {f : α → β} {g : β → β} (x : Except ε α) (h : ∀ a, g (f a) = f a) :
    f <$> x = g <$> f <$> x := by
  rw [← comp_map]
  exact congrArg (· <$> x) (funext h).symm

/-- Both readings fail with the same error, or both succeed and their results are related. -/
inductive Agree (R : α → β → Prop) : Except ε α → Except ε β → Prop
  /-- Both fail. -/
  | error (e : ε) : Agree R (.error e) (.error e)
  /-- Both succeed. -/
  | ok {a : α} {b : β} (h : R a b) : Agree R (.ok a) (.ok b)

/-- Readings that become the same under a function agree up to this function. -/
lemma agree_of_map_eq {f : α → β} {x y : Except ε α} (h : f <$> y = f <$> x) :
    Agree (fun a b => f b = f a) x y := by
  cases x with
  | error e =>
    rw [map_eq_error_iff.1 h]
    exact .error e
  | ok a =>
    obtain ⟨b, rfl, hb⟩ := map_eq_ok_iff.1 h
    exact .ok hb

lemma Agree.imp {R S : α → β → Prop} (hRS : ∀ a b, R a b → S a b) {x : Except ε α}
    {y : Except ε β} (h : Agree R x y) : Agree S x y := by
  cases h with
  | error e => exact .error e
  | ok h => exact .ok (hRS _ _ h)

/-- Sequences agree if their parts do. -/
lemma Agree.bind {γ δ : Type} {R : α → β → Prop} {S : γ → δ → Prop} {x : Except ε α}
    {y : Except ε β} {f : α → Except ε γ} {g : β → Except ε δ} (h : Agree R x y)
    (hf : ∀ a b, R a b → Agree S (f a) (g b)) : Agree S (x >>= f) (y >>= g) := by
  cases h with
  | error e => exact .error e
  | ok h => exact hf _ _ h

/-- A reading succeeds if it has some result. -/
lemma isOk_iff {x : Except ε α} : x.isOk = true ↔ ∃ a, x = .ok a := by
  cases x <;> simp [Except.isOk, Except.toBool]

/-- What is left of a reading without its error. -/
lemma toOption_eq_some_iff {x : Except ε α} {a : α} : x.toOption = some a ↔ x = .ok a := by
  cases x <;> simp [Except.toOption]

/-- A reading that fails does not succeed. -/
lemma not_isOk_of_eq_error {x : Except ε α} {e : ε} (h : x = .error e) : ¬ x.isOk = true := by
  rw [h]
  exact Bool.false_ne_true

@[simp] lemma isOk_map {x : Except ε α} {f : α → β} : (f <$> x).isOk = x.isOk := by
  cases x <;> rfl

@[simp] lemma isOk_bind_pure {x : Except ε α} {f : α → β} :
    (x >>= fun a => pure (f a)).isOk = x.isOk := by
  cases x <;> rfl

@[simp] lemma isOk_mapError {x : Except ε α} {f : ε → ε'} : (x.mapError f).isOk = x.isOk := by
  cases x <;> rfl

/-- A sequence in which the second part does not depend on the result of the first one succeeds if
both parts do. -/
lemma isOk_bind_iff {x : Except ε α} {f : α → Except ε β} {p : Prop}
    (h : ∀ a, (f a).isOk = true ↔ p) : (x >>= f).isOk = true ↔ x.isOk = true ∧ p := by
  cases x with
  | error e => simp [bind, Except.bind, Except.isOk, Except.toBool]
  | ok a =>
    have hok : (Except.ok a : Except ε α).isOk = true := rfl
    rw [and_iff_right hok]
    exact h a

/-! ## Lists -/

/-- Reading a list gives one result for each element, in order.

**Proof sketch.** Induction on the list: the head is read first and the rest after it. -/
lemma mapM_eq_ok_iff {f : α → Except ε β} {xs : List α} {ys : List β} :
    xs.mapM f = .ok ys ↔ List.Forall₂ (fun x y => f x = .ok y) xs ys := by
  induction xs generalizing ys with
  | nil => rw [List.mapM_nil, pure_eq_ok_iff, List.forall₂_nil_left_iff, eq_comm]
  | cons x xs ih =>
    simp only [List.mapM_cons, bind_eq_ok_iff, pure_eq_ok_iff, ih, List.forall₂_cons_left_iff]
    constructor
    · rintro ⟨y, hy, ys', hys, rfl⟩
      exact ⟨y, ys', hy, hys, rfl⟩
    · rintro ⟨y, ys', hy, hys, rfl⟩
      exact ⟨y, hy, ys', hys, rfl⟩

/-- A relation between lists that every element of the first can meet is met by some second list. -/
lemma exists_forall₂_iff {R : α → β → Prop} {xs : List α} :
    (∃ ys, List.Forall₂ R xs ys) ↔ ∀ x ∈ xs, ∃ y, R x y := by
  induction xs with
  | nil => simp
  | cons x xs ih =>
    rw [List.forall_mem_cons, ← ih]
    constructor
    · rintro ⟨_, _ | ⟨h, hs⟩⟩
      exact ⟨⟨_, h⟩, _, hs⟩
    · rintro ⟨⟨y, h⟩, ys, hs⟩
      exact ⟨y :: ys, .cons h hs⟩

/-- Lists are related by a function exactly if it maps the one to the other. -/
lemma forall₂_apply_eq_iff {f : α → β} {xs : List α} {ys : List β} :
    List.Forall₂ (fun x y => f x = y) xs ys ↔ xs.map f = ys := by
  rw [← List.forall₂_eq_eq_eq, List.forall₂_map_left_iff]

/-- The first element of a list that is not accepted is refused for a reason. -/
def FirstRefused (accepted : α → Prop) (refused : α → ε → Prop) (xs : List α) (reason : ε) : Prop :=
  ∃ before x after, xs = before ++ x :: after ∧ (∀ y ∈ before, accepted y) ∧ refused x reason

/-- Reading a list succeeds exactly if every element is read. -/
lemma isOk_mapM_iff {f : α → Except ε β} {xs : List α} :
    (xs.mapM f).isOk = true ↔ ∀ x ∈ xs, (f x).isOk = true := by
  simp only [isOk_iff, mapM_eq_ok_iff]
  exact exists_forall₂_iff

/-- Reading a list fails with the error of the first element that is refused.

**Proof sketch.** Induction on the list: the head is refused, or it is read and the rest fails. -/
lemma mapM_eq_error_iff {f : α → Except ε β} {xs : List α} {e : ε} :
    xs.mapM f = .error e ↔
      FirstRefused (fun x => (f x).isOk = true) (fun x e => f x = .error e) xs e := by
  induction xs with
  | nil =>
    refine iff_of_false (fun h => by cases h) ?_
    rintro ⟨before, x, after, hsplit, -⟩
    simp at hsplit
  | cons x xs ih =>
    rw [List.mapM_cons, bind_eq_error_iff]
    constructor
    · rintro (h | ⟨y, hy, h⟩)
      · exact ⟨[], x, xs, rfl, by simp, h⟩
      · have hrest : xs.mapM f = .error e := by
          rcases bind_eq_error_iff.1 h with h | ⟨ys, -, h⟩
          · exact h
          · cases h
        obtain ⟨before, z, after, rfl, hbefore, hz⟩ := ih.1 hrest
        refine ⟨x :: before, z, after, rfl, ?_, hz⟩
        rw [List.forall_mem_cons, isOk_iff]
        exact ⟨⟨y, hy⟩, hbefore⟩
    · rintro ⟨_ | ⟨y, before⟩, z, after, hsplit, hbefore, hz⟩
      · obtain ⟨rfl, rfl⟩ := List.cons.inj hsplit
        exact .inl hz
      · obtain ⟨rfl, rfl⟩ := List.cons.inj hsplit
        rw [List.forall_mem_cons, isOk_iff] at hbefore
        obtain ⟨⟨y, hy⟩, hbefore⟩ := hbefore
        refine .inr ⟨y, hy, ?_⟩
        rw [ih.2 ⟨before, z, after, rfl, hbefore, hz⟩]
        rfl

/-- Reading one list after another fails in the first one, or in the second one after that. -/
lemma mapM_append_eq_error_iff {f : α → Except ε β} {xs ys : List α} {e : ε} :
    (xs ++ ys).mapM f = .error e ↔
      xs.mapM f = .error e ∨ (∀ x ∈ xs, (f x).isOk = true) ∧ ys.mapM f = .error e := by
  have hpure : ∀ (zs : List β) (x : Except ε (List β)),
      (x >>= fun zs' => pure (zs ++ zs')) = .error e ↔ x = .error e :=
    fun zs x => map_eq_error_iff (f := (zs ++ ·))
  rw [List.mapM_append, bind_eq_error_iff, ← isOk_mapM_iff, isOk_iff]
  simp only [hpure, exists_and_right]

/-! ## Loops -/

/-- A loop fails with the error of the first element that it does not get past.

**Proof sketch.** Induction on the list: either the head fails, which is element zero, or the rest
does from where the head leads. -/
lemma foldlM_eq_error_iff {f : β → α → Except ε β} {b : β} {xs : List α} {e : ε} :
    xs.foldlM f b = .error e ↔
      ∃ k c x, (xs.take k).foldlM f b = .ok c ∧ xs[k]? = some x ∧ f c x = .error e := by
  induction xs generalizing b with
  | nil => simp [pure, Except.pure]
  | cons x xs ih =>
    rw [List.foldlM_cons, bind_eq_error_iff]
    constructor
    · rintro (h | ⟨c, hc, h⟩)
      · exact ⟨0, b, x, rfl, rfl, h⟩
      · obtain ⟨k, d, y, hd, hy, h⟩ := ih.1 h
        refine ⟨k + 1, d, y, ?_, hy, h⟩
        rw [List.take_succ_cons, List.foldlM_cons, hc]
        exact hd
    · rintro ⟨_ | k, d, y, hd, hy, h⟩
      · obtain rfl : b = d := Except.ok.inj hd
        obtain rfl : x = y := Option.some.inj hy
        exact .inl h
      · rw [List.take_succ_cons, List.foldlM_cons, bind_eq_ok_iff] at hd
        obtain ⟨c, hc, hd⟩ := hd
        exact .inr ⟨c, hc, ih.2 ⟨k, d, y, hd, hy, h⟩⟩

/-- A loop that gets through a list gets through its first elements. -/
lemma exists_foldlM_take {f : β → α → Except ε β} {b c : β} {xs : List α}
    (h : xs.foldlM f b = .ok c) (k : Nat) : ∃ d, (xs.take k).foldlM f b = .ok d := by
  rw [← List.take_append_drop k xs, List.foldlM_append, bind_eq_ok_iff] at h
  obtain ⟨d, hd, -⟩ := h
  exact ⟨d, hd⟩

/-- What every step of a loop keeps holds after the loop. -/
lemma foldlM_keeps {f : β → α → Except ε β} {P : β → Prop} {xs : List α}
    (hstep : ∀ x ∈ xs, ∀ b c, P b → f b x = .ok c → P c) {b c : β} (hb : P b)
    (h : xs.foldlM f b = .ok c) : P c := by
  induction xs generalizing b with
  | nil => exact Except.ok.inj h ▸ hb
  | cons x xs ih =>
    rw [List.foldlM_cons, bind_eq_ok_iff] at h
    obtain ⟨d, hd, h⟩ := h
    rw [List.forall_mem_cons] at hstep
    exact ih hstep.2 (hstep.1 b d hb hd) h

/-- A loop over images of elements runs through the images of the states, if each step does. -/
lemma foldlM_map_map {α' β' : Type} {f : β → α → Except ε β} {f' : β' → α' → Except ε β'}
    {g : β → β'} {h : α → α'} (hg : ∀ b x, f' (g b) (h x) = g <$> f b x) (b : β) (xs : List α) :
    (xs.map h).foldlM f' (g b) = g <$> xs.foldlM f b := by
  induction xs generalizing b with
  | nil => rfl
  | cons x xs ih =>
    rw [List.map_cons, List.foldlM_cons, List.foldlM_cons, hg]
    cases f b x with
    | error e => rfl
    | ok c => exact ih c

/-- A part of the state that no step of a loop looks at or changes stays outside the loop. -/
lemma foldlM_map {f : β → α → Except ε β} {g : β → β} (hg : ∀ b x, f (g b) x = g <$> f b x)
    (b : β) (xs : List α) : xs.foldlM f (g b) = g <$> xs.foldlM f b := by
  have hmap := foldlM_map_map (h := id) hg b xs
  rwa [List.map_id] at hmap

/-- A loop that gets on wherever another one does gets through wherever the other one does. -/
lemma foldlM_eq_ok_of_imp {f f' : β → α → Except ε β}
    (hstep : ∀ b x c, f b x = .ok c → f' b x = .ok c) {b c : β} {xs : List α}
    (h : xs.foldlM f b = .ok c) : xs.foldlM f' b = .ok c := by
  induction xs generalizing b with
  | nil => exact h
  | cons x xs ih =>
    rw [List.foldlM_cons, bind_eq_ok_iff] at h ⊢
    obtain ⟨d, hd, h⟩ := h
    exact ⟨d, hstep b x d hd, ih h⟩

/-! ## Sorts of errors -/

/-- If a reading fails, the error is of one sort. -/
def FailsOnly (P : ε → Prop) (x : Except ε α) : Prop := ∀ e, x = .error e → P e

namespace FailsOnly

variable {P : ε → Prop} {x : Except ε α}

lemma ok (a : α) : FailsOnly P (.ok a) := fun _ h => nomatch h

/-- The second part of a sequence only matters for the result of the first one. -/
lemma bind {f : α → Except ε β} (hx : FailsOnly P x) (hf : ∀ a, x = .ok a → FailsOnly P (f a)) :
    FailsOnly P (x >>= f) := by
  intro e he
  rcases bind_eq_error_iff.1 he with h | ⟨a, ha, h⟩
  · exact hx e h
  · exact hf a ha e h

lemma map (f : α → β) (hx : FailsOnly P x) : FailsOnly P (f <$> x) :=
  fun e he => hx e (map_eq_error_iff.1 he)

lemma mapError {f : ε' → ε} (hf : ∀ e, P (f e)) (y : Except ε' α) : FailsOnly P (y.mapError f) := by
  intro e he
  obtain ⟨e', -, rfl⟩ := mapError_eq_error_iff.1 he
  exact hf e'

lemma mapM {f : α → Except ε β} (hf : ∀ a, FailsOnly P (f a)) (xs : List α) :
    FailsOnly P (xs.mapM f) := by
  intro e he
  obtain ⟨_, a, _, -, -, ha⟩ := mapM_eq_error_iff.1 he
  exact hf a e ha

end FailsOnly

/-! ## Related lists -/

variable {γ : Type} {xs : List α} {ys : List β}

section

variable {σ : Type} {m : Type → Type} [Monad m]

/-- Reading two lists comes to the same if their elements are read alike. -/
lemma mapM_congr [LawfulMonad m] {f : α → m γ} {g : β → m γ}
    (h : List.Forall₂ (fun x y => f x = g y) xs ys) : xs.mapM f = ys.mapM g := by
  induction h with
  | nil => rfl
  | cons hxy _ ih => rw [List.mapM_cons, List.mapM_cons, hxy, ih]

/-- A list is read as another one is, if its elements are. -/
lemma mapM_eq_ok_of_forall₂ {f : α → Except ε γ} {g : β → Except ε γ}
    (h : List.Forall₂ (fun x y => ∀ z, f x = .ok z → g y = .ok z) xs ys) {zs : List γ}
    (hzs : xs.mapM f = .ok zs) : ys.mapM g = .ok zs := by
  rw [mapM_eq_ok_iff] at hzs ⊢
  induction h generalizing zs with
  | nil => cases hzs; exact .nil
  | cons hxy _ ih =>
    cases hzs with
    | cons hz hzs => exact .cons (hxy _ hz) (ih hzs)

/-- Loops over two lists come to the same if their elements act alike on every state. -/
lemma foldlM_congr {f : σ → α → m σ} {g : σ → β → m σ}
    (h : List.Forall₂ (fun x y => ∀ s, f s x = g s y) xs ys) (s : σ) :
    xs.foldlM f s = ys.foldlM g s := by
  induction h generalizing s with
  | nil => rfl
  | cons hxy _ ih => simp only [List.foldlM_cons, hxy, ih]

end

/-- What holds for all elements of a list holds for all elements of a related list, if the relation
carries it over. -/
lemma forall_mem_iff_of_forall₂ {P : α → Prop} {Q : β → Prop}
    (h : List.Forall₂ (fun x y => P x ↔ Q y) xs ys) : (∀ x ∈ xs, P x) ↔ ∀ y ∈ ys, Q y := by
  induction h with
  | nil => simp
  | cons hxy _ ih => rw [List.forall_mem_cons, List.forall_mem_cons, hxy, ih]

/-- If every element has one partner only, the partners are those of the elements. -/
lemma mem_iff_of_forall₂ {R : α → β → Prop} (h : List.Forall₂ R xs ys)
    (hunique : ∀ x y y', R x y → R x y' → y = y') {y : β} : y ∈ ys ↔ ∃ x ∈ xs, R x y := by
  induction h with
  | nil => simp
  | cons hxz _ ih =>
    rw [List.mem_cons, List.exists_mem_cons_iff, ih]
    exact or_congr_left ⟨fun hyz => hyz ▸ hxz, fun hxy => hunique _ _ _ hxy hxz⟩

/-- What holds for every result of a reading holds for all results of reading a list. -/
lemma forall_mem_of_mapM {f : α → Except ε β} {Q : β → Prop} (h : xs.mapM f = .ok ys)
    (hQ : ∀ x y, f x = .ok y → Q y) : ∀ y ∈ ys, Q y := by
  have hiff : List.Forall₂ (fun _ y => True ↔ Q y) xs ys :=
    (mapM_eq_ok_iff.1 h).imp fun x y hxy => iff_of_true trivial (hQ x y hxy)
  exact (forall_mem_iff_of_forall₂ hiff).1 fun _ _ => trivial

/-- A part that every element of the first list has in common with its partner. -/
lemma filterMap_eq_map_of_forall₂ {f : α → Option γ} {g : β → γ}
    (h : List.Forall₂ (fun x y => f x = some (g y)) xs ys) : xs.filterMap f = ys.map g := by
  induction h with
  | nil => rfl
  | cons hxy _ ih => rw [List.filterMap_cons_some hxy, List.map_cons, ih]

/-- Parts that every element of the first list has in common with its partner, up to order. -/
lemma flatMap_perm_of_forall₂ {f : α → List γ} {g : β → List γ}
    (h : List.Forall₂ (fun x y => (f x).Perm (g y)) xs ys) :
    (xs.flatMap f).Perm (ys.flatMap g) := by
  induction h with
  | nil => exact .nil
  | cons hxy _ ih =>
    rw [List.flatMap_cons, List.flatMap_cons]
    exact hxy.append ih

/-! ## Searches -/

/-- Among elements with different keys, a search by key finds the one of that key. -/
lemma find?_eq_some_iff_of_nodup {κ : Type} [DecidableEq κ] {f : α → κ} {xs : List α}
    (h : (xs.map f).Nodup) (n : κ) (x : α) :
    xs.find? (fun y => f y = n) = some x ↔ x ∈ xs ∧ f x = n := by
  constructor
  · intro hf
    exact ⟨List.mem_of_find?_eq_some hf, by simpa using List.find?_some hf⟩
  · rintro ⟨hx, rfl⟩
    obtain ⟨y, hy⟩ : ∃ y, xs.find? (fun y => f y = f x) = some y :=
      Option.isSome_iff_exists.1 (List.find?_isSome.2 ⟨x, hx, by simp⟩)
    have hyx : f y = f x := by simpa using List.find?_some hy
    rw [hy, List.inj_on_of_nodup_map h (List.mem_of_find?_eq_some hy) hx hyx]

end BuildPackage.Outcome
