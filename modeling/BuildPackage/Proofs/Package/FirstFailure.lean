import BuildPackage.Proofs.Package.Assembly

set_option relaxedAutoImplicit false
set_option autoImplicit false

/-!
# The first failure

Decoding stops at the first fault of a message. If the fault lies in what the message says besides
its targets, the targets do not count. Otherwise there is a first target that is refused: without it
and all that follows decoding succeeds, and with it decoding fails, always in the same way. No later
target, no event and no flag changes the error or hides it.

## Main definitions

* `BuildPackage.Wire.Package.takeTargets` — a message with its first targets only.
* `BuildPackage.Wire.Package.header` — what a message says besides its targets.
* `BuildPackage.Package.FailsAfter` — the number of targets up to which decoding succeeds.
* `BuildPackage.Package.Blames` — a target that is refused after those before it were added.

## Main results

* `BuildPackage.Package.Blames.congr` — what follows a target that is refused does not count.
* `BuildPackage.Package.failsAfter_iff` — the error is that of the first target that is refused.
* `BuildPackage.Package.first_failure` — where decoding fails, and with what.
-/

namespace BuildPackage

variable {registry : Registry} {w : Workspace} {m m' : Wire.Package} {e : DecodeError} {k : Nat}

/-! ## Parts of messages -/

namespace Wire.Package

/-- A message with its first targets only. -/
def takeTargets (m : Wire.Package) (k : Nat) : Wire.Package :=
  { m with
    sourceFiles := m.sourceFiles.take k
    packageGroups := m.packageGroups.take (k - m.sourceFiles.length)
    rules := m.rules.take (k - m.sourceFiles.length - m.packageGroups.length) }

@[simp] lemma targets_takeTargets (m : Wire.Package) (k : Nat) :
    (m.takeTargets k).targets = m.targets.take k := by
  simp [targets, takeTargets, List.take_append, List.map_take, Nat.sub_sub]

/-- What a message says besides its targets, without what was found when the build file was
evaluated: the events, and whether there were errors. -/
def header (m : Wire.Package) : Wire.Package :=
  { m with
    sourceFiles := [], packageGroups := [], rules := []
    events := [], containsErrors := none }

@[simp] lemma header_takeTargets (m : Wire.Package) (k : Nat) :
    (m.takeTargets k).header = m.header := rfl

end Wire.Package

/-- Messages with the same header have the same setting. -/
lemma Setting.ofWire_congr (h : m'.header = m.header) : Setting.ofWire m' = Setting.ofWire m := by
  have hheader : ∀ m : Wire.Package, Setting.ofWire m = Setting.ofWire m.header := fun _ => rfl
  rw [hheader m', h, ← hheader m]

lemma Setting.ofWire_takeTargets (m : Wire.Package) (k : Nat) :
    Setting.ofWire (m.takeTargets k) = Setting.ofWire m := rfl

/-! ## Builders with errors -/

namespace Builder

/-- The builder with another statement on errors in the build file. -/
def withErrors (containsErrors : Bool) (b : Builder) : Builder := { b with containsErrors }

/-- Errors in the build file play no part when a target is added. -/
lemma add_withErrors (containsErrors : Bool) (b : Builder) (t : Target) :
    (b.withErrors containsErrors).add t = withErrors containsErrors <$> b.add t := by
  simp only [add, map_bind, map_pure]
  cases t <;> rfl

/-- Errors in the build file play no part when a target of a message is added. -/
lemma addWire_withErrors (containsErrors : Bool) (b : Builder) (t : Wire.Target) :
    addWire registry (b.withErrors containsErrors) t =
      withErrors containsErrors <$> addWire registry b t := by
  simp only [addWire, add_withErrors, map_bind]
  rfl

/-- Messages with the same header have the same builder to begin with, apart from errors in the
build file. -/
lemma ofSetting_congr (h : m'.header = m.header) (s : Setting) :
    ofSetting m' s = (ofSetting m s).withErrors (m'.containsErrors.getD false) := by
  have hheader : ∀ (m : Wire.Package) (c : Bool), (ofSetting m s).withErrors c =
      (ofSetting m.header s).withErrors c := fun _ _ => rfl
  rw [hheader m, ← h, ← hheader m']
  rfl

lemma ofWire_takeTargets (m : Wire.Package) (k : Nat) (s : Setting) :
    Builder.ofWire registry (m.takeTargets k) s =
      (m.targets.take k).foldlM (addWire registry) (ofSetting m s) := by
  rw [Builder.ofWire, Wire.Package.targets_takeTargets]
  rfl

end Builder

namespace Package

/-! ## Failures -/

/-- Once all targets are added nothing can fail any more. -/
lemma outcome_ofWire (m : Wire.Package) :
    (Package.ofWire registry m).outcome w = (Setting.ofWire m).outcome w >>= fun s =>
      (fun b => ⟨b.build, .ofWire s.buildFile m.events⟩) <$> Builder.ofWire registry m s := by
  simp only [Package.ofWire, Inquiry.outcome_bind, Inquiry.outcome_ofExcept, Inquiry.outcome_pure]
  rfl

lemma isOk_outcome_iff :
    ((Package.ofWire registry m).outcome w).isOk = true ↔
      ∃ s b, (Setting.ofWire m).outcome w = .ok s ∧ Builder.ofWire registry m s = .ok b := by
  simp only [outcome_ofWire, Outcome.isOk_iff, Outcome.bind_eq_ok_iff, Outcome.map_eq_ok_iff]
  constructor
  · rintro ⟨_, s, hs, b, hb, rfl⟩
    exact ⟨s, b, hs, hb⟩
  · rintro ⟨s, b, hs, hb⟩
    exact ⟨_, s, hs, b, hb, rfl⟩

/-- A message without targets is decoded exactly if it has a setting. -/
lemma isOk_outcome_takeTargets_zero_iff :
    ((Package.ofWire registry (m.takeTargets 0)).outcome w).isOk = true ↔
      ∃ s, (Setting.ofWire m).outcome w = .ok s := by
  rw [isOk_outcome_iff, Setting.ofWire_takeTargets]
  simp [Builder.ofWire_takeTargets]

/-- Decoding fails with the error of a target if that target is refused in the setting of the
message, after all targets before it were added. -/
def Blames (registry : Registry) (w : Workspace) (m : Wire.Package) (k : Nat) (e : DecodeError) :
    Prop :=
  ∃ s b t, (Setting.ofWire m).outcome w = .ok s ∧
    Builder.ofWire registry (m.takeTargets k) s = .ok b ∧
    m.targets[k]? = some t ∧ b.addWire registry t = .error e

/-- A message with a setting fails exactly with the error of a target that is refused. -/
lemma outcome_eq_error_iff {s : Setting} (hs : (Setting.ofWire m).outcome w = .ok s) :
    (Package.ofWire registry m).outcome w = .error e ↔ ∃ k, Blames registry w m k e := by
  have houtcome : (Package.ofWire registry m).outcome w = .error e ↔
      Builder.ofWire registry m s = .error e := by
    rw [outcome_ofWire, hs]
    exact Outcome.map_eq_error_iff
  simp only [houtcome, Builder.ofWire, Outcome.foldlM_eq_error_iff, Blames, hs, Except.ok.injEq,
    ← Builder.ofWire_takeTargets, exists_and_left, exists_eq_left']

/-- A message fails with the error of a target that is refused. -/
lemma Blames.outcome_eq (h : Blames registry w m k e) :
    (Package.ofWire registry m).outcome w = .error e := by
  have ⟨s, _, _, hs, _⟩ := h
  exact (outcome_eq_error_iff hs).2 ⟨k, h⟩

/-- A target that is refused is one of the targets that there are. -/
lemma Blames.lt_of_takeTargets {i : Nat} (h : Blames registry w (m.takeTargets k) i e) : i < k := by
  obtain ⟨-, -, t, -, -, ht, -⟩ := h
  rw [Wire.Package.targets_takeTargets] at ht
  obtain ⟨hi, -⟩ := List.getElem?_eq_some_iff.1 ht
  exact Nat.lt_of_lt_of_le hi (List.length_take_le k m.targets)

/-- What follows a target that is refused does not count. -/
theorem Blames.congr (h : Blames registry w m k e) (hheader : m'.header = m.header)
    (htargets : m'.targets.take (k + 1) = m.targets.take (k + 1)) : Blames registry w m' k e := by
  obtain ⟨s, b, t, hs, hb, ht, he⟩ := h
  have htake : m'.targets.take k = m.targets.take k := by
    have hmin : min k (k + 1) = k := Nat.min_eq_left (Nat.le_succ k)
    rw [← hmin, ← List.take_take, htargets, List.take_take]
  have hget : m'.targets[k]? = m.targets[k]? := by
    rw [← List.getElem?_take_of_succ, htargets, List.getElem?_take_of_succ]
  refine ⟨s, b.withErrors (m'.containsErrors.getD false), t, ?_, ?_, ?_, ?_⟩
  · rw [Setting.ofWire_congr hheader, hs]
  · rw [Builder.ofWire_takeTargets] at hb ⊢
    rw [htake, Builder.ofSetting_congr hheader,
      Outcome.foldlM_map (Builder.addWire_withErrors _), hb]
    rfl
  · rw [hget, ht]
  · rw [Builder.addWire_withErrors, he]
    rfl

/-! ## The first failure -/

/-- A message is decoded as long as only its first `k` targets are there, and fails with one error
as soon as the next one is. -/
structure FailsAfter (registry : Registry) (w : Workspace) (m : Wire.Package) (k : Nat)
    (e : DecodeError) : Prop where
  /-- Decoding succeeds with at most `k` targets. -/
  succeeds : ∀ j ≤ k, ((Package.ofWire registry (m.takeTargets j)).outcome w).isOk = true
  /-- Decoding fails with more than `k` targets. -/
  fails : ∀ j, k < j → (Package.ofWire registry (m.takeTargets j)).outcome w = .error e

lemma FailsAfter.unique {k' : Nat} (h : FailsAfter registry w m k e)
    (h' : FailsAfter registry w m k' e) : k' = k := by
  rcases Nat.lt_trichotomy k' k with hlt | heq | hgt
  · exact absurd (h.succeeds k (Nat.le_refl k)) (Outcome.not_isOk_of_eq_error (h'.fails k hlt))
  · exact heq
  · exact absurd (h'.succeeds k' (Nat.le_refl k')) (Outcome.not_isOk_of_eq_error (h.fails k' hgt))

/-- Decoding fails after `k` targets exactly if the next target is refused.

**Proof sketch.** A target that is refused is refused in every message that begins with the same
targets (`Blames.congr`), and the targets before it are added one after another. Conversely, the
message with one more target than `k` fails because of one of its targets. It is the last one,
because the others are decoded without it. -/
theorem failsAfter_iff : FailsAfter registry w m k e ↔ Blames registry w m k e := by
  constructor
  · intro h
    obtain ⟨s, -, hs, -⟩ := isOk_outcome_iff.1 (h.succeeds k (Nat.le_refl k))
    rw [Setting.ofWire_takeTargets, ← Setting.ofWire_takeTargets m (k + 1)] at hs
    obtain ⟨i, hi⟩ := (outcome_eq_error_iff hs).1 (h.fails (k + 1) (Nat.lt_succ_self k))
    have hik : i ≤ k := Nat.le_of_lt_succ hi.lt_of_takeTargets
    obtain hlt | rfl := Nat.lt_or_eq_of_le hik
    · have hk : Blames registry w (m.takeTargets k) i e := by
        refine hi.congr ?_ ?_
        · rw [m.header_takeTargets, m.header_takeTargets]
        · rw [m.targets_takeTargets, m.targets_takeTargets, List.take_take, List.take_take,
            Nat.min_eq_left hlt, Nat.min_eq_left (Nat.succ_le_succ hik)]
      exact absurd (h.succeeds k (Nat.le_refl k)) (Outcome.not_isOk_of_eq_error hk.outcome_eq)
    · refine hi.congr (m.header_takeTargets _).symm ?_
      rw [Wire.Package.targets_takeTargets, List.take_take, Nat.min_self]
  · intro h
    have ⟨s, b, t, hs, hb, _⟩ := h
    refine ⟨fun j hj => ?_, fun j hj => ?_⟩
    · rw [Builder.ofWire_takeTargets] at hb
      obtain ⟨c, hc⟩ := Outcome.exists_foldlM_take hb j
      rw [List.take_take, Nat.min_eq_left hj, ← Builder.ofWire_takeTargets] at hc
      exact isOk_outcome_iff.2 ⟨s, c, hs, hc⟩
    · refine (h.congr (m.header_takeTargets j) ?_).outcome_eq
      rw [Wire.Package.targets_takeTargets, List.take_take, Nat.min_eq_left hj]

/-- Without a setting a message fails, whatever else it says. -/
lemma outcome_eq_of_setting (hs : (Setting.ofWire m).outcome w = .error e)
    (h : m'.header = m.header) : (Package.ofWire registry m').outcome w = .error e := by
  rw [outcome_ofWire, Setting.ofWire_congr h, hs]
  rfl

/-- Where decoding fails, and with what. A message that fails without targets fails in the same way
with any targets. A message that fails but would be decoded without targets has exactly one number
of targets up to which it is decoded and beyond which it fails with its error. This is the error of
the next target, and all messages that begin with the same targets fail with it. -/
theorem first_failure (registry : Registry) (w : Workspace) (m : Wire.Package) :
    (∀ e, (Package.ofWire registry (m.takeTargets 0)).outcome w = .error e →
      ∀ m' : Wire.Package, m'.header = m.header →
        (Package.ofWire registry m').outcome w = .error e) ∧
    (((Package.ofWire registry (m.takeTargets 0)).outcome w).isOk = true →
      ∀ e, (Package.ofWire registry m).outcome w = .error e →
        ∃! k, FailsAfter registry w m k e) ∧
    ∀ k e, FailsAfter registry w m k e →
      Blames registry w m k e ∧ ∀ m' : Wire.Package, m'.header = m.header →
        m'.targets.take (k + 1) = m.targets.take (k + 1) →
          (Package.ofWire registry m').outcome w = .error e := by
  refine ⟨fun e h0 m' hm' => ?_, fun h0 e he => ?_, fun k e h => ?_⟩
  · cases hs : (Setting.ofWire m).outcome w with
    | error e' =>
      have he' : (Package.ofWire registry (m.takeTargets 0)).outcome w = .error e' :=
        outcome_eq_of_setting hs (m.header_takeTargets 0)
      obtain rfl : e' = e := Except.error.inj (he'.symm.trans h0)
      exact outcome_eq_of_setting hs hm'
    | ok s =>
      exact absurd (isOk_outcome_takeTargets_zero_iff.2 ⟨s, hs⟩) (Outcome.not_isOk_of_eq_error h0)
  · obtain ⟨s, hs⟩ := isOk_outcome_takeTargets_zero_iff.1 h0
    obtain ⟨k, hk⟩ := (outcome_eq_error_iff hs).1 he
    have hfails : FailsAfter registry w m k e := failsAfter_iff.2 hk
    exact ⟨k, hfails, fun _ h => hfails.unique h⟩
  · have hblames : Blames registry w m k e := failsAfter_iff.1 h
    exact ⟨hblames, fun m' hm' htargets => (hblames.congr hm' htargets).outcome_eq⟩

/-- A rule that makes a file which is there already, before a rule of a class that nobody knows; and
the same targets in a package that nobody knows. -/
theorem first_failure_of_taken_output :
    let m : Wire.Package := {
      name := "app"
      sourceFiles := [{ name := "//app:main.c" }]
      packageGroups := [{ name := "//app:friends" }]
      rules := [
        { name := "//app:gen", ruleClass := "genrule",
          attributes := [{ name := "out", discriminator := 4, string := some "//app:main.c" }] },
        { name := "//app:other", ruleClass := "unheard" }]
      events := [{ message := "done" }] }
    let lost : Wire.Package := { m with name := "lib" }
    let registry : Registry := .register .empty ⟨"genrule", .ofList [("out", AttributeType.output)]⟩
    let w : Workspace :=
      ⟨fun package => if package = "app" then some ⟨"app/BUILD"⟩ else none, fun _ => some false⟩
    let e : DecodeError := .nameTaken .outputFile "main.c" "app"
    ((Package.ofWire registry (m.takeTargets 0)).outcome w).isOk = true ∧
      (Package.ofWire registry m).outcome w = .error e ∧
      (∃! k, FailsAfter registry w m k e) ∧ (∃ k, Blames registry w m k e) ∧
      (Package.ofWire registry (lost.takeTargets 0)).outcome w = .error (.buildFileNotFound "lib") ∧
      (Package.ofWire registry lost).outcome w = .error (.buildFileNotFound "lib") := by
  intro m lost registry w e
  obtain ⟨-, hunique, hblames⟩ := first_failure registry w m
  have h0 : ((Package.ofWire registry (m.takeTargets 0)).outcome w).isOk = true := by
    decide +kernel
  have he : (Package.ofWire registry m).outcome w = .error e :=
    Outcome.map_eq_error_iff.1
      (by decide +kernel : (fun _ => ()) <$> (Package.ofWire registry m).outcome w = .error e)
  obtain ⟨k, hk, -⟩ := hunique h0 e he
  have hlost : (Package.ofWire registry (lost.takeTargets 0)).outcome w =
      .error (.buildFileNotFound "lib") := rfl
  exact ⟨h0, he, hunique h0 e he, ⟨k, (hblames k e hk).1⟩, hlost,
    (first_failure registry w lost).1 _ hlost lost rfl⟩

end Package

end BuildPackage
