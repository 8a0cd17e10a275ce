import BuildPackage.Proofs.Package.Boundary
import Mathlib.Data.List.Induction

set_option relaxedAutoImplicit false
set_option autoImplicit false

/-!
# Make environments as maps

An environment is a list of variables with a list of bindings each, and an update changes either of
the two lists in place or at the end. Seen from outside it is a map from pairs of a variable and a
platform pattern to values, in which the last update of a pair counts, together with the order in
which variables and patterns came first. Nothing else is remembered: the bindings of an environment,
applied as updates in their order, build the same environment.

## Main definitions

* `BuildPackage.MakeUpdate.last?` — the update of a variable and a platform pattern that counts.
* `BuildPackage.changeFirst` — a change to the first element of a key, or a new element.
* `BuildPackage.MakeEnvironment.toUpdates` — the bindings of an environment as updates.
* `BuildPackage.MakeEnvironment.Reflects` — an environment that is what some updates make of it.

## Main results

* `BuildPackage.MakeEnvironment.get?_update` — an update changes one value.
* `BuildPackage.MakeEnvironment.ofUpdates_toUpdates` — an environment is built again from its
  bindings.
* `BuildPackage.MakeEnvironment.reflects_ofUpdates` — what any sequence of updates leads to.
* `BuildPackage.MakeEnvironment.last_write_wins` — the same for the packages of messages.
-/

namespace BuildPackage

/-! ## Lists -/

/-- One more element at the end is listed unless it occurs before. -/
lemma eraseDups_append_singleton {α : Type} [DecidableEq α] (xs : List α) (x : α) :
    (xs ++ [x]).eraseDups = if x ∈ xs then xs.eraseDups else xs.eraseDups ++ [x] := by
  rw [List.eraseDups_append]
  split_ifs with hx <;> simp [List.removeAll, List.eraseDups_cons, hx]

lemma nodup_eraseDups {α : Type} [DecidableEq α] (xs : List α) : xs.eraseDups.Nodup := by
  induction xs using List.reverseRecOn with
  | nil => exact List.nodup_nil
  | append_singleton xs x ih =>
    rw [eraseDups_append_singleton]
    split_ifs with hx
    · exact ih
    · refine List.nodup_append.2 ⟨ih, List.nodup_singleton x, ?_⟩
      rintro y hy _ hx' rfl
      rw [List.mem_singleton.1 hx'] at hy
      exact hx (List.mem_eraseDups.1 hy)

/-- Changes the first element that has the key of a new one. If there is none, the new one comes at
the end. -/
def changeFirst {α : Type} (key : α → String) (change : α → α) (new : α) : List α → List α
  | [] => [new]
  | x :: rest =>
    if key x = key new then change x :: rest else x :: changeFirst key change new rest

section ChangeFirst

variable {α : Type} (key : α → String) (change : α → α) (new : α)

/-- The elements before the first one of the key stay as they are. -/
lemma changeFirst_append {xs : List α} (h : ∀ x ∈ xs, key x ≠ key new) (ys : List α) :
    changeFirst key change new (xs ++ ys) = xs ++ changeFirst key change new ys := by
  induction xs with
  | nil => rfl
  | cons x xs ih =>
    rw [List.forall_mem_cons] at h
    rw [List.cons_append, changeFirst, if_neg h.1, ih h.2, List.cons_append]

/-- Without an element of the key the new one comes at the end. -/
lemma changeFirst_of_forall_ne {xs : List α} (h : ∀ x ∈ xs, key x ≠ key new) :
    changeFirst key change new xs = xs ++ [new] := by
  have happend := changeFirst_append key change new h []
  rwa [List.append_nil] at happend

/-- The keys stay in their places, and a new key comes at the end. -/
lemma map_key_changeFirst (hchange : ∀ x, key (change x) = key x) (xs : List α) :
    (changeFirst key change new xs).map key =
      if key new ∈ xs.map key then xs.map key else xs.map key ++ [key new] := by
  induction xs with
  | nil => simp [changeFirst]
  | cons x xs ih =>
    by_cases hx : key x = key new
    · simp [changeFirst, hx, hchange]
    · have hmem : key new ∈ key x :: xs.map key ↔ key new ∈ xs.map key := by
        rw [List.mem_cons, or_iff_right (Ne.symm hx)]
      rw [changeFirst, if_neg hx, List.map_cons, ih, List.map_cons]
      simp only [hmem]
      split_ifs <;> rfl

/-- A search by key finds the element that was changed or is new, if it searches for that key, and
what it has found before otherwise. -/
lemma find?_changeFirst (hchange : ∀ x, key (change x) = key x) (xs : List α) (k : String) :
    (changeFirst key change new xs).find? (fun x => key x = k) =
      if k = key new then some ((xs.find? fun x => key x = key new).elim new change)
      else xs.find? fun x => key x = k := by
  induction xs with
  | nil =>
    by_cases hk : k = key new
    · simp [changeFirst, hk]
    · simp [changeFirst, hk, Ne.symm hk]
  | cons x xs ih =>
    by_cases hx : key x = key new
    · by_cases hk : k = key new
      · simp [changeFirst, hx, hk, hchange]
      · simp [changeFirst, hx, hk, Ne.symm hk, hchange]
    · rw [changeFirst, if_neg hx, List.find?_cons, List.find?_cons, List.find?_cons, ih]
      by_cases hk : k = key new
      · simp [hk, hx]
      · simp [hk]

end ChangeFirst

/-! ## One update -/

/-- The last of some updates for a variable and a platform pattern. -/
def MakeUpdate.last? (updates : List MakeUpdate) (name platform : String) : Option MakeUpdate :=
  updates.findRev? fun u => u.name = name ∧ u.platform = platform

lemma MakeUpdate.last?_append_singleton (updates : List MakeUpdate) (u : MakeUpdate)
    (name platform : String) :
    last? (updates ++ [u]) name platform =
      if name = u.name ∧ platform = u.platform then some u else last? updates name platform := by
  simp only [last?, List.findRev?_eq_find?_reverse, List.reverse_append, List.reverse_singleton,
    List.singleton_append, List.find?_cons, eq_comm (a := name), eq_comm (a := platform)]
  split_ifs with h <;> simp [h]

namespace MakeEnvironment

variable {env : MakeEnvironment}

lemma updateBinding_eq (platform value : String) (bs : List MakeBinding) :
    updateBinding platform value bs =
      changeFirst MakeBinding.platform (fun b => ⟨b.platform, value⟩) ⟨platform, value⟩ bs := by
  induction bs with
  | nil => rfl
  | cons b bs ih =>
    rw [updateBinding, changeFirst, ih]
    split_ifs with hb
    · rw [hb]
    · rfl

lemma updateVariable_eq (u : MakeUpdate) (entries : List (String × List MakeBinding)) :
    updateVariable u entries =
      changeFirst Prod.fst (fun v => (v.1, updateBinding u.platform u.value v.2))
        (u.name, updateBinding u.platform u.value []) entries := by
  induction entries with
  | nil => rfl
  | cons v entries ih => rw [updateVariable, changeFirst, ih]

/-- An update lists its platform pattern at the end, unless it is listed already. -/
lemma map_platform_updateBinding (platform value : String) (bs : List MakeBinding) :
    (updateBinding platform value bs).map MakeBinding.platform =
      if platform ∈ bs.map MakeBinding.platform then bs.map MakeBinding.platform
      else bs.map MakeBinding.platform ++ [platform] := by
  rw [updateBinding_eq, map_key_changeFirst]
  exact fun _ => rfl

/-- Of the bindings of a variable, an update changes the one of its platform pattern only. -/
lemma find?_updateBinding (platform value : String) (bs : List MakeBinding) (p : String) :
    (updateBinding platform value bs).find? (fun b => b.platform = p) =
      if p = platform then some ⟨platform, value⟩ else bs.find? fun b => b.platform = p := by
  rw [updateBinding_eq, find?_changeFirst]
  · refine if_congr Iff.rfl (congrArg some ?_) rfl
    cases hb : bs.find? fun b => b.platform = platform with
    | none => rfl
    | some b =>
      have hplatform : b.platform = platform := by simpa using List.find?_some hb
      rw [Option.elim_some, hplatform]
  · exact fun _ => rfl

/-- An update lists its variable at the end, unless it is listed already. -/
lemma names_update (env : MakeEnvironment) (u : MakeUpdate) :
    (env.update u).names =
      if u.name ∈ env.names then env.names else env.names ++ [u.name] := by
  rw [names, update, updateVariable_eq, map_key_changeFirst, names]
  exact fun _ => rfl

/-- An update changes the bindings of its variable only. -/
lemma bindings_update (env : MakeEnvironment) (u : MakeUpdate) (name : String) :
    (env.update u).bindings name =
      if name = u.name then updateBinding u.platform u.value (env.bindings name)
      else env.bindings name := by
  rw [bindings, update, updateVariable_eq, find?_changeFirst, bindings]
  · split_ifs with hn
    · rw [hn]
      cases env.entries.find? fun v => v.1 = u.name <;> rfl
    · rfl
  · exact fun _ => rfl

/-- An update changes the value of its variable for its platform pattern and no other value. -/
theorem get?_update (env : MakeEnvironment) (u : MakeUpdate) (name platform : String) :
    (env.update u).get? name platform =
      if name = u.name ∧ platform = u.platform then some u.value else env.get? name platform := by
  rw [get?, bindings_update, get?]
  by_cases hn : name = u.name
  · rw [if_pos hn, find?_updateBinding]
    by_cases hp : platform = u.platform
    · rw [if_pos hp, if_pos ⟨hn, hp⟩, Option.map_some]
    · rw [if_neg hp, if_neg fun h => hp h.2]
  · rw [if_neg hn, if_neg fun h => hn h.1]

/-! ## All updates -/

lemma ofUpdates_append_singleton (updates : List MakeUpdate) (u : MakeUpdate) :
    ofUpdates (updates ++ [u]) = (ofUpdates updates).update u := by
  rw [ofUpdates, List.foldl_append, ofUpdates]
  rfl

/-- The value of a variable for a platform pattern is the one given last. -/
lemma get?_ofUpdates (updates : List MakeUpdate) (name platform : String) :
    (ofUpdates updates).get? name platform =
      (MakeUpdate.last? updates name platform).map MakeUpdate.value := by
  induction updates using List.reverseRecOn with
  | nil => rfl
  | append_singleton updates u ih =>
    rw [ofUpdates_append_singleton, get?_update, MakeUpdate.last?_append_singleton, ih]
    split_ifs <;> rfl

/-- The variables are listed in the order of their first updates. -/
lemma names_ofUpdates (updates : List MakeUpdate) :
    (ofUpdates updates).names = (updates.map MakeUpdate.name).eraseDups := by
  induction updates using List.reverseRecOn with
  | nil => rfl
  | append_singleton updates u ih =>
    rw [ofUpdates_append_singleton, names_update, ih, List.map_append, List.map_singleton,
      eraseDups_append_singleton]
    simp only [List.mem_eraseDups]

/-- The platform patterns of a variable are listed in the order of their first updates. -/
lemma map_platform_bindings_ofUpdates (updates : List MakeUpdate) (name : String) :
    ((ofUpdates updates).bindings name).map MakeBinding.platform =
      ((updates.filter (·.name = name)).map MakeUpdate.platform).eraseDups := by
  induction updates using List.reverseRecOn with
  | nil => rfl
  | append_singleton updates u ih =>
    rw [ofUpdates_append_singleton, bindings_update, List.filter_append]
    by_cases hn : name = u.name
    · rw [if_pos hn, map_platform_updateBinding, ih, List.filter_singleton, hn,
        decide_eq_true rfl, cond_true, List.map_append, List.map_singleton,
        eraseDups_append_singleton]
      simp only [List.mem_eraseDups]
    · rw [if_neg hn, ih, List.filter_singleton]
      simp [Ne.symm hn]

/-! ## Environments as updates -/

/-- The bindings of an environment as updates, in their order. -/
def toUpdates (env : MakeEnvironment) : List MakeUpdate :=
  env.entries.flatMap fun v => v.2.map fun b => ⟨v.1, b.platform, b.value⟩

/-- No variable is listed twice or without bindings, and no platform pattern twice for a variable.
-/
structure Tidy (env : MakeEnvironment) : Prop where
  /-- No variable is listed twice. -/
  names_nodup : env.names.Nodup
  /-- A variable has bindings, and they are for different platform patterns. -/
  entries : ∀ v ∈ env.entries, v.2 ≠ [] ∧ (v.2.map MakeBinding.platform).Nodup

/-- Bindings for new platform patterns are put at the end, one after another. -/
lemma foldl_updateBinding {bs cs : List MakeBinding}
    (h : ((bs ++ cs).map MakeBinding.platform).Nodup) :
    cs.foldl (fun ds b => updateBinding b.platform b.value ds) bs = bs ++ cs := by
  induction cs generalizing bs with
  | nil => rw [List.foldl_nil, List.append_nil]
  | cons c cs ih =>
    have hnew : ∀ b ∈ bs, b.platform ≠ c.platform := by
      rw [List.map_append, List.nodup_append] at h
      exact fun b hb => h.2.2 _ (List.mem_map_of_mem hb) _ (List.mem_map_of_mem List.mem_cons_self)
    rw [List.foldl_cons, updateBinding_eq, changeFirst_of_forall_ne _ _ _ hnew,
      List.append_cons bs c cs]
    rw [List.append_cons] at h
    exact ih h

/-- Updates of the variable that is listed last change its bindings. -/
lemma foldl_update_last {entries : List (String × List MakeBinding)} {name : String}
    (h : ∀ v ∈ entries, v.1 ≠ name) (bs cs : List MakeBinding) :
    (cs.map fun b => (⟨name, b.platform, b.value⟩ : MakeUpdate)).foldl update
        ⟨entries ++ [(name, bs)]⟩ =
      ⟨entries ++ [(name, cs.foldl (fun ds b => updateBinding b.platform b.value ds) bs)]⟩ := by
  induction cs generalizing bs with
  | nil => rfl
  | cons c cs ih =>
    rw [List.map_cons, List.foldl_cons, update, updateVariable_eq, changeFirst_append _ _ _ h,
      changeFirst, if_pos rfl, ih, List.foldl_cons]

/-- The bindings of a new variable are listed as they are. -/
lemma foldl_update_new {entries : List (String × List MakeBinding)} {name : String}
    (h : ∀ v ∈ entries, v.1 ≠ name) {bs : List MakeBinding} (hne : bs ≠ [])
    (hbs : (bs.map MakeBinding.platform).Nodup) :
    (bs.map fun b => (⟨name, b.platform, b.value⟩ : MakeUpdate)).foldl update ⟨entries⟩ =
      ⟨entries ++ [(name, bs)]⟩ := by
  obtain ⟨b, bs, rfl⟩ := List.exists_cons_of_ne_nil hne
  -- The first binding lists the variable, which is the last one from then on.
  rw [List.map_cons, List.foldl_cons, update, updateVariable_eq, changeFirst_of_forall_ne _ _ _ h,
    foldl_update_last h]
  have hfold : bs.foldl (fun ds b => updateBinding b.platform b.value ds) [b] = [b] ++ bs :=
    foldl_updateBinding hbs
  exact congrArg (fun bs => (⟨entries ++ [(name, bs)]⟩ : MakeEnvironment)) hfold

/-- Tidy entries are listed as they are, behind those that are there already.

**Proof sketch.** Induction on the entries: each of them is a new variable (`foldl_update_new`). -/
lemma foldl_update_entries {entries new : List (String × List MakeBinding)}
    (h : Tidy ⟨entries ++ new⟩) :
    (new.flatMap fun v => v.2.map fun b => (⟨v.1, b.platform, b.value⟩ : MakeUpdate)).foldl update
      ⟨entries⟩ = ⟨entries ++ new⟩ := by
  induction new generalizing entries with
  | nil => rw [List.flatMap_nil, List.foldl_nil, List.append_nil]
  | cons v new ih =>
    have hnew : ∀ e ∈ entries, e.1 ≠ v.1 := by
      have hnames : ((entries ++ v :: new).map Prod.fst).Nodup := h.names_nodup
      rw [List.map_append, List.nodup_append] at hnames
      exact fun e he =>
        hnames.2.2 _ (List.mem_map_of_mem he) _ (List.mem_map_of_mem List.mem_cons_self)
    obtain ⟨hne, hnodup⟩ := h.entries v (List.mem_append_right entries List.mem_cons_self)
    rw [List.flatMap_cons, List.foldl_append, foldl_update_new hnew hne hnodup,
      List.append_cons entries v new]
    rw [List.append_cons] at h
    exact ih h

/-- A variable is listed exactly if it is updated, and has bindings then. -/
lemma bindings_ofUpdates_ne_nil {updates : List MakeUpdate} {name : String}
    (h : name ∈ (ofUpdates updates).names) : (ofUpdates updates).bindings name ≠ [] := by
  rw [names_ofUpdates, List.mem_eraseDups, List.mem_map] at h
  obtain ⟨u, hu, rfl⟩ := h
  have hmem : u.platform ∈ ((ofUpdates updates).bindings u.name).map MakeBinding.platform := by
    rw [map_platform_bindings_ofUpdates, List.mem_eraseDups]
    exact List.mem_map_of_mem (List.mem_filter.2 ⟨hu, decide_eq_true rfl⟩)
  intro hnil
  rw [hnil] at hmem
  exact List.not_mem_nil hmem

/-- What updates lead to is tidy. -/
lemma tidy_ofUpdates (updates : List MakeUpdate) : (ofUpdates updates).Tidy := by
  have hnames : (ofUpdates updates).names.Nodup := by
    rw [names_ofUpdates]
    exact nodup_eraseDups _
  refine ⟨hnames, fun v hv => ?_⟩
  have hfind := (Outcome.find?_eq_some_iff_of_nodup hnames v.1 v).2 ⟨hv, rfl⟩
  have hbindings : (ofUpdates updates).bindings v.1 = v.2 := by
    rw [bindings, hfind]
    rfl
  rw [← hbindings, map_platform_bindings_ofUpdates]
  exact ⟨bindings_ofUpdates_ne_nil (List.mem_map_of_mem hv), nodup_eraseDups _⟩

/-- An environment of updates is built again from its bindings. -/
theorem ofUpdates_toUpdates (updates : List MakeUpdate) :
    ofUpdates (ofUpdates updates).toUpdates = ofUpdates updates :=
  @foldl_update_entries [] _ (tidy_ofUpdates updates)

/-- An environment that is what some updates make of it: a map from variables and platform patterns
to values, with the order in which they came first. -/
structure Reflects (updates : List MakeUpdate) (env : MakeEnvironment) : Prop where
  /-- The value of a variable for a platform pattern is the one given last. -/
  get?_eq : ∀ name platform,
    env.get? name platform = (MakeUpdate.last? updates name platform).map MakeUpdate.value
  /-- The variables are listed in the order of their first updates. -/
  names_eq : env.names = (updates.map MakeUpdate.name).eraseDups
  /-- No variable is listed twice. -/
  names_nodup : env.names.Nodup
  /-- The platform patterns of a variable are listed in the order of their first updates. -/
  platforms_eq : ∀ name, (env.bindings name).map MakeBinding.platform =
    ((updates.filter (·.name = name)).map MakeUpdate.platform).eraseDups
  /-- No platform pattern of a variable is listed twice. -/
  platforms_nodup : ∀ name, ((env.bindings name).map MakeBinding.platform).Nodup
  /-- A variable that is listed has bindings. -/
  bindings_ne_nil : ∀ name ∈ env.names, env.bindings name ≠ []
  /-- The bindings, applied as updates in their order, build the same environment. -/
  replay : ofUpdates env.toUpdates = env

/-- Every sequence of updates leads to an environment that reflects it. -/
theorem reflects_ofUpdates (updates : List MakeUpdate) :
    (ofUpdates updates).Reflects updates where
  get?_eq := get?_ofUpdates updates
  names_eq := names_ofUpdates updates
  names_nodup := (tidy_ofUpdates updates).names_nodup
  platforms_eq := map_platform_bindings_ofUpdates updates
  platforms_nodup name := by
    rw [map_platform_bindings_ofUpdates]
    exact nodup_eraseDups _
  bindings_ne_nil _ hname := bindings_ofUpdates_ne_nil hname
  replay := ofUpdates_toUpdates updates

/-! ## Messages -/

/-- Going through the variables of a message and through the bindings of each comes to the same as
going through all bindings in one list. -/
lemma ofWire_eq_foldl (vars : List Wire.MakeVar) :
    ofWire vars = vars.foldl (fun env v =>
      v.bindings.foldl (fun env b => env.update ⟨v.name, b.platform, b.value⟩) env) empty := by
  simp only [ofWire, ofUpdates, updatesOfWire, List.foldl_flatMap, List.foldl_map]

/-- A variable of a message without bindings leaves no trace. -/
lemma ofWire_filter_bindings (vars : List Wire.MakeVar) :
    ofWire (vars.filter fun v => !v.bindings.isEmpty) = ofWire vars := by
  have hupdates :
      updatesOfWire (vars.filter fun v => !v.bindings.isEmpty) = updatesOfWire vars := by
    induction vars with
    | nil => rfl
    | cons v vars ih =>
      unfold updatesOfWire at ih ⊢
      rw [List.filter_cons, List.flatMap_cons, ← ih]
      cases hv : v.bindings with
      | nil => simp
      | cons b bs => simp [hv]
  rw [ofWire, hupdates, ofWire]

/-- A variable of a message may be given in two parts, one after the other. -/
lemma ofWire_split (before after : List Wire.MakeVar) (name : String)
    (bs cs : List Wire.MakeVarBinding) :
    ofWire (before ++ ⟨name, bs⟩ :: ⟨name, cs⟩ :: after) =
      ofWire (before ++ ⟨name, bs ++ cs⟩ :: after) := by
  simp [ofWire, updatesOfWire]

/-- The make variables of an assembled package are those of its message. -/
lemma of_outcome_assemble {registry : Registry} {w : Workspace} {m : Wire.Package} {b : Builder}
    {log : EventLog} (h : (assemble registry m).outcome w = .ok (b, log)) :
    b.makeEnvironment = ofWire m.makeVariables := by
  obtain ⟨s, -, hb, -⟩ := outcome_assemble_eq_ok_iff.1 h
  obtain ⟨files, groups, rules, -, -, -, -, rfl⟩ := Builder.ofWire_eq_ok_iff.1 hb
  rfl

/-- The last write wins, and everything stays where it came first.

Every sequence of updates leads to an environment that reflects it. A package that is decoded, with
or without a search for subpackages, has the environment of all bindings of its message in one list.
So a variable without bindings leaves no trace, and a variable may be given in several parts.

**Proof sketch.** Both levels of an environment are lists that are changed at the first element of a
key or extended at the end (`changeFirst`), so one update is known by what it does to keys and
searches. The rest is induction on the updates from the end. -/
theorem last_write_wins :
    (∀ updates, (ofUpdates updates).Reflects updates) ∧
    (∀ registry w m, (∀ d, (Package.ofWire registry m).outcome w = .ok d →
        d.package.makeEnvironment = ofWire m.makeVariables) ∧
      ∀ d, (CheckedPackage.ofWire registry m).outcome w = .ok d →
        d.package.package.makeEnvironment = ofWire m.makeVariables) ∧
    ∀ vars, ofWire vars = ofUpdates (vars.flatMap fun v =>
        v.bindings.map fun b => ⟨v.name, b.platform, b.value⟩) ∧
      ofWire vars = vars.foldl (fun env v =>
        v.bindings.foldl (fun env b => env.update ⟨v.name, b.platform, b.value⟩) env) empty ∧
      ofWire (vars.filter fun v => !v.bindings.isEmpty) = ofWire vars ∧
      ∀ after name bs cs, ofWire (vars ++ ⟨name, bs⟩ :: ⟨name, cs⟩ :: after) =
        ofWire (vars ++ ⟨name, bs ++ cs⟩ :: after) := by
  refine ⟨reflects_ofUpdates, fun registry w m => ⟨fun d hd => ?_, fun d hd => ?_⟩, fun vars => ?_⟩
  · obtain ⟨b, hb, hbuild⟩ := Package.outcome_eq_ok_iff.1 hd
    rw [← hbuild, ← of_outcome_assemble hb]
    rfl
  · obtain ⟨b, log, hb, -, rfl⟩ := CheckedPackage.outcome_eq_ok_iff.1 hd
    exact of_outcome_assemble hb
  · exact ⟨rfl, ofWire_eq_foldl vars, ofWire_filter_bindings vars,
      fun after name bs cs => ofWire_split vars after name bs cs⟩

/-- A variable that is given twice keeps its place and takes the later value. One without bindings
leaves no trace. -/
theorem last_write_wins_of_spread_variable :
    let m : Wire.Package := {
      name := "app"
      makeVariables := [
        ⟨"CC", [⟨"gcc", "linux"⟩, ⟨"clang", "mac"⟩]⟩, ⟨"AR", []⟩, ⟨"LD", [⟨"ld", "linux"⟩]⟩,
        ⟨"CC", [⟨"tcc", "linux"⟩]⟩] }
    let w : Workspace := ⟨fun package => some ⟨package ++ "/BUILD"⟩, fun _ => some false⟩
    ∃ d, (Package.ofWire .empty m).outcome w = .ok d ∧
      d.package.makeEnvironment =
        ⟨[("CC", [⟨"linux", "tcc"⟩, ⟨"mac", "clang"⟩]), ("LD", [⟨"linux", "ld"⟩])]⟩ ∧
      d.package.makeEnvironment.Reflects (updatesOfWire m.makeVariables) := by
  intro m w
  have hok : ((Package.ofWire .empty m).outcome w).isOk = true := by decide +kernel
  obtain ⟨d, hd⟩ := Outcome.isOk_iff.1 hok
  have henv := (last_write_wins.2.1 .empty w m).1 d hd
  refine ⟨d, hd, ?_, ?_⟩
  · rw [henv]
    decide
  · rw [henv]
    exact last_write_wins.1 (updatesOfWire m.makeVariables)

end MakeEnvironment

end BuildPackage
