import ContainerBuild.Buildx.Command
import ContainerBuild.Proofs.Build.Aggregate

/-!
# Tags of several platforms

Among several platforms, the tag of each one ends with its name, in which hyphens stand for the
slashes. A hyphen may also belong to a part of the name. Two platforms therefore share a tag
exactly when their names are the same once hyphens divide them as slashes do.
-/

namespace ContainerBuild

/-- Whether a character divides a platform's name inside a tag. -/
def Platform.isDivider (c : Char) : Bool := c = '/' || c = '-'

/-- The pieces of a platform's name between slashes and hyphens. -/
def Platform.pieces (p : Platform) : List (List Char) :=
  p.render.toList.splitOnP Platform.isDivider

namespace Buildx

open Platform (isDivider)

variable {p q : Platform} {r : BuildRequest} {list : String}

/-- Once hyphens stand for slashes, a text is divided at hyphens only. -/
theorem splitOn_map_hyphen (s : List Char) :
    (s.map fun c ↦ if c = '/' then '-' else c).splitOn '-' = s.splitOnP isDivider := by
  induction s with
  | nil => rfl
  | cons c s ih =>
    rw [List.map_cons, List.splitOn_cons_eq_if_modifyHead, ih,
      List.splitOnP_cons_eq_if_modifyHead]
    by_cases hslash : c = '/'
    · subst hslash
      rfl
    · rw [if_neg hslash]
      simp [isDivider, hslash]

private theorem tagSuffix_eq (p : Platform) : tagSuffix p = ['-'].intercalate p.pieces := by
  rw [Platform.pieces, ← splitOn_map_hyphen, List.intercalate_splitOn, tagSuffix]

private theorem tagSuffix_eq_iff : tagSuffix p = tagSuffix q ↔ p.pieces = q.pieces := by
  constructor
  · intro h
    rw [Platform.pieces, Platform.pieces, ← splitOn_map_hyphen, ← splitOn_map_hyphen]
    exact congrArg (List.splitOn '-') h
  · intro h
    rw [tagSuffix_eq, tagSuffix_eq, h]

/-- Two platforms share a tag exactly when they have the same pieces, whatever the tag is. -/
theorem platformTag_eq_iff (tag : String) :
    platformTag tag p = platformTag tag q ↔ p.pieces = q.pieces := by
  rw [← tagSuffix_eq_iff, platformTag, platformTag, String.ofList_inj, List.append_right_inj,
    List.cons.injEq, and_iff_right rfl]

private theorem map_pieces (hplain : p.IsPlain) (h : ∀ part ∈ p.parts, '-' ∉ part.toList) :
    p.pieces.map String.ofList = p.parts := by
  have hrender : '-' ∉ p.render.toList := by
    rw [Platform.render_eq, String.toList_intercalate]
    intro hmem
    rcases Text.mem_intercalate hmem with hmem | ⟨piece, hpiece, hmem⟩
    · cases List.mem_singleton.mp hmem
    · obtain ⟨part, hpart, rfl⟩ := List.mem_map.mp hpiece
      exact h part hpart hmem
  have hdivider : ∀ c ∈ p.render.toList, isDivider c = (c == '/') := by
    intro c hc
    have hne : c ≠ '-' := fun he ↦ hrender (he ▸ hc)
    simp [isDivider, hne, beq_eq_decide]
  rw [Platform.pieces, Text.splitOnP_congr hdivider]
  exact hplain.splitOn_render

/-! ### One build for several platforms -/

private theorem tagFor_solveOptions (hmulti : r.isMulti = true) (native p : Platform)
    (tag : String) :
    tagFor (r.solveOptions native (some p)) tag = platformTag tag p := by
  simp [tagFor, BuildRequest.solveOptions, hmulti]

/-- The tags of the calls of one build for several platforms are those of its platforms. -/
theorem map_tagFor_calls (hmulti : 2 ≤ r.platforms.length) (native : Platform) (tag : String) :
    (r.calls native).map (tagFor · tag) = r.platforms.map (platformTag tag) := by
  have hne : r.platforms ≠ [] := List.length_pos_iff.mp (by omega)
  have hprefix : r.isMulti = true := Build.isMulti_iff.mpr hmulti
  rw [BuildRequest.calls, Build.targets_eq hne, List.map_map, List.map_map]
  exact List.map_congr_left fun p _ ↦ tagFor_solveOptions hprefix native p tag

/-- In a build for the platforms of a list, each call of the engine gets the tag of its platform.
No two of these tags are the same exactly when the names of the platforms differ even if hyphens
divide them as slashes do, and so whenever no part of a name has a hyphen. -/
theorem nodup_tags_iff [Platform.Machine] (hlist : Platform.parseList list = .ok r.platforms)
    (hmulti : 2 ≤ r.platforms.length) (native : Platform) (tag : String) :
    (r.calls native).map (tagFor · tag) = r.platforms.map (platformTag tag) ∧
      (((r.calls native).map (tagFor · tag)).Nodup ↔ (r.platforms.map (·.pieces)).Nodup) ∧
      ((∀ p ∈ r.platforms, ∀ part ∈ p.parts, '-' ∉ part.toList) →
        ((r.calls native).map (tagFor · tag)).Nodup) := by
  have hnodup := (Platform.nodup_of_parseList hlist).1
  have hiff : (r.platforms.map (platformTag tag)).Nodup ↔ (r.platforms.map (·.pieces)).Nodup := by
    rw [List.nodup_map_iff_inj_on hnodup, List.nodup_map_iff_inj_on hnodup]
    simp only [platformTag_eq_iff]
  rw [map_tagFor_calls hmulti]
  refine ⟨rfl, hiff, fun h ↦ hiff.mpr ?_⟩
  have hplain := Platform.isPlain_of_parseList hlist
  refine (List.nodup_map_iff_inj_on hnodup).mpr fun p hp q hq heq ↦ ?_
  apply Platform.eq_of_parts_eq
  rw [← map_pieces (hplain p hp) (h p hp), ← map_pieces (hplain q hq) (h q hq), heq]

/-- A platform with a variant and one without. -/
theorem nodup_tags_iff_variant :
    let _ : Platform.Machine := .x86
    let r : BuildRequest :=
      { script := "FROM scratch\n"
        platforms := [⟨"linux", "arm", some "v7"⟩, ⟨"linux", "arm64", none⟩] }
    let native : Platform := ⟨"linux", "amd64", none⟩
    Platform.parseList "linux/arm,aarch64" = .ok r.platforms ∧
      (r.calls native).map (tagFor · "localhost:5000/app") =
        ["localhost:5000/app:linux-arm-v7", "localhost:5000/app:linux-arm64"] ∧
      ((r.calls native).map (tagFor · "localhost:5000/app")).Nodup := by
  intro _ r native
  have hlist : Platform.parseList "linux/arm,aarch64" = .ok r.platforms := by decide +kernel
  obtain ⟨htags, -, hnodup⟩ :=
    @nodup_tags_iff r "linux/arm,aarch64" _ hlist (by decide) native "localhost:5000/app"
  exact ⟨hlist, htags.trans (by decide), hnodup (by decide)⟩

/-- A variant and the hyphen in the name of an architecture lead to one tag for two platforms. -/
theorem platformTag_eq_of_hyphen :
    let _ : Platform.Machine := .x86
    Platform.parseList "linux/arm/v7,linux/arm-v7" =
        .ok [⟨"linux", "arm", some "v7"⟩, ⟨"linux", "arm-v7", none⟩] ∧
      (⟨"linux", "arm", some "v7"⟩ : Platform) ≠ ⟨"linux", "arm-v7", none⟩ ∧
      platformTag "app:1.0" ⟨"linux", "arm", some "v7"⟩ = "app:1.0-linux-arm-v7" ∧
      platformTag "app:1.0" ⟨"linux", "arm-v7", none⟩ = "app:1.0-linux-arm-v7" := by
  intro _
  have hentries : (Text.splitOn ',' "linux/arm/v7,linux/arm-v7").filterMap Text.nonBlank? =
      ["linux/arm/v7", "linux/arm-v7"] := by decide +kernel
  have hall : Platform.parseAll ["linux/arm/v7", "linux/arm-v7"] =
      .ok [⟨"linux", "arm", some "v7"⟩, ⟨"linux", "arm-v7", none⟩] := by decide +kernel
  have hfirst : [(⟨"linux", "arm", some "v7"⟩ : Platform), ⟨"linux", "arm-v7", none⟩].eraseDups =
      [⟨"linux", "arm", some "v7"⟩, ⟨"linux", "arm-v7", none⟩] :=
    eraseDups_eq_self (by decide)
  refine ⟨?_, by decide, by decide +kernel, by decide +kernel⟩
  rw [Platform.parseList, hentries, hall]
  exact congrArg Except.ok hfirst

end Buildx

end ContainerBuild
