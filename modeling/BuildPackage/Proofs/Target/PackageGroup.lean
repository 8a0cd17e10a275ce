import BuildPackage.Proofs.Target.Reading

set_option relaxedAutoImplicit false
set_option autoImplicit false

/-!
# The packages of a group

A package group of a message lists entries, each of which covers some packages. An entry that ends in
`/...` covers a package and all below it, and it is compared with a package segment by segment: the
package next to it whose name merely begins in the same way is not covered. The entry `...` covers all
packages, and any other entry covers the one package that it names. The slashes that a group puts in
front of its entries play no part in this.

## Main definitions

* `BuildPackage.PackageGroup.Covers` — an entry of a message and a package that it covers.

## Main results

* `BuildPackage.Segments.split_isPrefix_iff` — texts whose segments begin alike.
* `BuildPackage.PackageGroup.specMatches_iff` — a specification covers what its entry covers.
* `BuildPackage.PackageGroup.contains_by_segments` — the packages of a group.
-/

namespace BuildPackage

/-- The segments of a text begin with those of another text exactly if both texts are the same, or
the text begins with the other one and a slash behind it.

**Proof sketch.** What is left of the segments are the segments of what stands behind the slash. -/
theorem Segments.split_isPrefix_iff {cs ds : List Char} :
    split cs <+: split ds ↔ ds = cs ∨ cs ++ ['/'] <+: ds := by
  constructor
  · rintro ⟨rest, hrest⟩
    have hjoin := congrArg join hrest
    rw [join_split] at hjoin
    by_cases hnil : rest = []
    · rw [hnil, List.append_nil, join_split] at hjoin
      exact .inl hjoin.symm
    · rw [join_append (split_ne_nil cs) hnil, join_split] at hjoin
      refine .inr ⟨join rest, ?_⟩
      rw [← hjoin, List.append_assoc, List.singleton_append]
  · rintro (rfl | ⟨rest, rfl⟩)
    · exact List.prefix_refl _
    · rw [List.append_assoc, List.singleton_append, split_append]
      exact List.prefix_append _ _

namespace PackageGroup

/-! ## Entries -/

/-- An entry of a message and a package that it covers. -/
inductive Covers : String → String → Prop
  /-- A package and all below it: the segments of the package begin with those of the entry. -/
  | below {base package : String}
      (h : Segments.split base.toList <+: Segments.split package.toList) :
      Covers (base ++ "/...") package
  /-- All packages. -/
  | all (package : String) : Covers "..." package
  /-- The package of that name. -/
  | only {package : String} (h : ∀ base, package ≠ base ++ "/...") : Covers package package

/-- An entry that ends like one for a package and all below it. -/
lemma belowMark_isSuffix_iff {entry : String} :
    belowMark <:+ entry.toList ↔ ∃ base, entry = base ++ "/..." := by
  constructor
  · rintro ⟨base, hbase⟩
    refine ⟨String.ofList base, ?_⟩
    rw [← String.toList_inj, ← hbase]
    simp [belowMark]
  · rintro ⟨base, rfl⟩
    rw [String.toList_append]
    exact List.suffix_append _ _

/-- An entry that does not end like one for a package and all below it. -/
lemma covers_iff_of_not_below {entry package : String} (h : ∀ base, entry ≠ base ++ "/...") :
    Covers entry package ↔ entry = "..." ∨ entry = package := by
  constructor
  · rintro (_ | _ | _)
    · exact absurd rfl (h _)
    · exact .inl rfl
    · exact .inr rfl
  · rintro (rfl | rfl)
    · exact .all package
    · exact .only h

/-- An entry for a package and all below it covers these. -/
lemma covers_below_iff {base package : String} :
    Covers (base ++ "/...") package ↔
      Segments.split base.toList <+: Segments.split package.toList := by
  constructor
  · intro h
    generalize hentry : base ++ "/..." = entry at h
    cases h with
    | @below base' _ h =>
      rwa [(String.append_left_inj "/...").1 hentry]
    | all =>
      have hlength := congrArg String.length hentry
      have hfour : "/...".length = 4 := rfl
      have hthree : "...".length = 3 := rfl
      rw [String.length_append] at hlength
      omega
    | only h => exact absurd hentry.symm (h base)
  · exact .below

/-- The body of a specification matches what the entry covers. -/
theorem bodyMatches_iff {entry package : String} :
    bodyMatches entry.toList package.toList = true ↔ Covers entry package := by
  unfold bodyMatches
  split_ifs with hbelow
  · obtain ⟨base, rfl⟩ := belowMark_isSuffix_iff.1 hbelow
    have htake : (base ++ "/...").toList.take ((base ++ "/...").toList.length - belowMark.length) =
        base.toList := by
      simp [belowMark]
    rw [covers_below_iff, Segments.split_isPrefix_iff]
    simp only [htake, Bool.or_eq_true, decide_eq_true_eq]
  · rw [covers_iff_of_not_below fun base hbase => hbelow (belowMark_isSuffix_iff.2 ⟨base, hbase⟩)]
    simp only [Bool.or_eq_true, decide_eq_true_eq, String.toList_inj]

/-- The slashes in front of an entry are taken off again, and no others. -/
lemma specBody_append (entry : String) : specBody ("//" ++ entry) = entry.toList := by
  simp [specBody]

/-- A specification covers what its entry covers. -/
theorem specMatches_iff {entry package : String} :
    specMatches ("//" ++ entry) package = true ↔ Covers entry package := by
  rw [specMatches, specBody_append, bodyMatches_iff]

/-! ## Packages below, and packages beside -/

/-- An entry for a package and all below it covers what is below a package that it covers. -/
lemma Covers.of_below {base package : String} (h : Covers (base ++ "/...") package)
    (rest : String) : Covers (base ++ "/...") (package ++ "/" ++ rest) := by
  apply Covers.below
  have hsegments := covers_below_iff.1 h
  have hchars : (package ++ "/" ++ rest).toList = package.toList ++ '/' :: rest.toList := by simp
  rw [hchars, Segments.split_append]
  exact hsegments.trans (List.prefix_append _ _)

/-- A package whose name goes on behind that of an entry without a slash is not covered. -/
lemma not_covers_beside {base rest : String} (hne : rest ≠ "") (hslash : ∀ r, rest ≠ "/" ++ r) :
    ¬ Covers (base ++ "/...") (base ++ rest) := by
  rw [covers_below_iff, Segments.split_isPrefix_iff]
  rintro (h | ⟨r, h⟩)
  · rw [String.toList_append, List.append_right_eq_self, String.toList_eq_nil_iff] at h
    exact hne h
  · apply hslash (String.ofList r)
    rw [String.toList_append, List.append_assoc, List.append_cancel_left_eq] at h
    rw [← String.toList_inj, ← h]
    simp

/-! ## Groups -/

variable {package : String} {buildFile : Path} {g : Wire.PackageGroup} {x : PackageGroup}

/-- A group that is read contains what one of its entries covers. -/
theorem contains_iff_covers (h : PackageGroup.ofWire package buildFile g = .ok x) (p : String) :
    x.contains p = true ↔ ∃ entry ∈ g.contained, Covers entry p := by
  rw [contains, (renders_of_ofWire h).specs, List.any_map, List.any_eq_true]
  simp only [Function.comp_apply, specMatches_iff]

/-- A group with other entries is read as well. -/
lemma exists_ofWire_of_entries (h : PackageGroup.ofWire package buildFile g = .ok x)
    (entries : List String) :
    ∃ y, PackageGroup.ofWire package buildFile { g with contained := entries } = .ok y := by
  have hread : (PackageGroup.ofWire package buildFile g).isOk = true := Outcome.isOk_iff.2 ⟨x, h⟩
  rw [isOk_ofWire_iff] at hread
  rw [← Outcome.isOk_iff, isOk_ofWire_iff]
  exact hread

/-- The packages of a group, by their segments.

A group that is read contains the packages that its entries cover. The bodies of its specifications
are the entries of the message, whatever these begin with. An entry that ends in `/...` never matches
a package beside the one that it names, and it matches all packages below a package that it matches.
With more entries a group contains no less.

**Proof sketch.** Putting slashes in front of an entry and taking them off again leaves the entry.
Whether a package begins with the body of an entry and a slash is a question about segments
(`Segments.split_isPrefix_iff`). -/
theorem contains_by_segments (h : PackageGroup.ofWire package buildFile g = .ok x) :
    (∀ p, x.contains p = true ↔ ∃ entry ∈ g.contained, Covers entry p) ∧
    x.specs.map specBody = g.contained.map String.toList ∧
    (∀ base rest, rest ≠ "" → (∀ r, rest ≠ "/" ++ r) →
      specMatches ("//" ++ (base ++ "/...")) (base ++ rest) = false) ∧
    (∀ base p, specMatches ("//" ++ (base ++ "/...")) p = true →
      ∀ rest, specMatches ("//" ++ (base ++ "/...")) (p ++ "/" ++ rest) = true) ∧
    ∀ entries, g.contained ⊆ entries →
      ∃ y, PackageGroup.ofWire package buildFile { g with contained := entries } = .ok y ∧
        ∀ p, x.contains p = true → y.contains p = true := by
  refine ⟨contains_iff_covers h, ?_, ?_, ?_, ?_⟩
  · rw [(renders_of_ofWire h).specs, List.map_map]
    exact List.map_congr_left fun entry _ => specBody_append entry
  · intro base rest hne hslash
    rw [Bool.eq_false_iff, Ne, specMatches_iff]
    exact not_covers_beside hne hslash
  · intro base p hp rest
    rw [specMatches_iff] at hp ⊢
    exact hp.of_below rest
  · intro entries hsubset
    obtain ⟨y, hy⟩ := exists_ofWire_of_entries h entries
    refine ⟨y, hy, fun p hp => ?_⟩
    obtain ⟨entry, hentry, hcovers⟩ := (contains_iff_covers h p).1 hp
    exact (contains_iff_covers hy p).2 ⟨entry, hsubset hentry, hcovers⟩

/-- An entry for a package and all below it, beside one that begins with slashes itself. -/
theorem contains_by_segments_of_doubled_slashes :
    let g : Wire.PackageGroup := { name := "//app:friends", contained := ["foo/...", "//baz"] }
    ∃ x, PackageGroup.ofWire "app" ⟨"app/BUILD"⟩ g = .ok x ∧
      x.contains "foo/bar" = true ∧ x.contains "//baz" = true ∧ x.contains "foobar" = false ∧
      specMatches "//foo/..." "foobar" = false ∧ specMatches "//foo/..." "foo/bar/baz" = true ∧
      ∃ y, PackageGroup.ofWire "app" ⟨"app/BUILD"⟩
          { g with contained := ["foobar", "foo/...", "//baz"] } = .ok y ∧
        ∀ p, x.contains p = true → y.contains p = true := by
  intro g
  have hok : (PackageGroup.ofWire "app" ⟨"app/BUILD"⟩ g).isOk = true := by decide +kernel
  obtain ⟨x, hx⟩ := Outcome.isOk_iff.1 hok
  obtain ⟨hcontains, -, hbeside, hbelow, hmore⟩ := contains_by_segments hx
  refine ⟨x, hx, ?_, ?_, ?_, ?_, ?_, hmore _ (List.subset_cons_self _ _)⟩
  · rw [hcontains]
    exact ⟨"foo/...", by simp [g], @Covers.below "foo" "foo/bar" (by decide)⟩
  · rw [hcontains]
    refine ⟨"//baz", by simp [g], Covers.only fun base hbase => ?_⟩
    exact absurd (belowMark_isSuffix_iff.2 ⟨base, hbase⟩) (by decide)
  · rw [Bool.eq_false_iff, Ne, hcontains]
    rintro ⟨entry, hentry, hcovers⟩
    have hnone : ∀ entry ∈ g.contained, specMatches ("//" ++ entry) "foobar" = false := by decide
    rw [← specMatches_iff, hnone entry hentry] at hcovers
    cases hcovers
  · exact hbeside "foo" "bar" (by decide) fun r hr => by
      have hhead := congrArg (fun s => s.toList.head?) hr
      simp at hhead
  · exact hbelow "foo" "foo/bar" (by decide) "baz"

end PackageGroup

end BuildPackage
