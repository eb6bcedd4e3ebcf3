import ContainerBuild.Proofs.Config.Resolved
import ContainerBuild.Proofs.Script.Keywords
import ContainerBuild.Proofs.Version.Written

/-!
# The base image of a resolved configuration

Both stages of a script begin with an image whose tag is the version of the configuration. A known
version gives the plain rendering of its numbers. A version that is asked for is kept as it is
written, so a `v` in front and zeros before a number get into the tag.
-/

namespace ContainerBuild

open Text (firstLine)

namespace Version

variable {constraint text version : String}

private theorem exists_release_of_choose (h : choose constraint (some text) = .ok version) :
    ∃ r : Release, r.IsWritable ∧ Version.parse version = .ok r.toVersion ∧
      ('+' ∉ version.toList → r.IsSpelled version) ∧
      (firstLine text = "" → version ∈ preferred ∧ version = r.render) ∧
      (firstLine text ≠ "" → version = firstLine text) := by
  by_cases hline : firstLine text = ""
  · have hknown := mem_preferred_of_choose hline h
    obtain ⟨r, hr, rfl⟩ := exists_release_of_mem_preferred hknown
    have hspelled := isSpelled_render r
    exact ⟨r, hr, parse_of_isSpelled hr hspelled, fun _ ↦ hspelled, fun _ ↦ ⟨hknown, rfl⟩,
      fun hne ↦ absurd hline hne⟩
  · obtain ⟨hfirst, -, v, -, hv, -⟩ := choose_eq_ok h
    obtain ⟨r, hr, rfl, hspelled⟩ := exists_release_of_parse hv
    rw [hfirst] at hspelled
    exact ⟨r, hr, hv, hspelled, fun he ↦ absurd he hline, fun _ ↦ eq_firstLine_of_choose hline h⟩

end Version

namespace Script

variable {m : Manifest} {requested : Option String} {ctx : Context} {c : Config}

/-- The version of a resolved configuration is read as one to three numbers. Without a plus sign it
is spelled by their numerals between dots, perhaps behind a `v`. It is the rendering of a known
version when neither the target nor the context asks for one, and else the line that asks for it.
The base images of both stages have it in their tag as it is. -/
theorem baseImage_of_resolve (h : Config.resolve m requested ctx = .ok c) :
    ∃ (t : Target) (text : String) (r : Release),
      Config.selectTarget m.targets requested = .ok (c.target, t) ∧
      Config.explicitVersion t ctx = .ok text ∧
      r.IsWritable ∧ Version.parse c.pythonVersion = .ok r.toVersion ∧
      ('+' ∉ c.pythonVersion.toList → r.IsSpelled c.pythonVersion) ∧
      (firstLine text = "" → c.pythonVersion ∈ Version.preferred ∧ c.pythonVersion = r.render) ∧
      (firstLine text ≠ "" → c.pythonVersion = firstLine text) ∧
      ∀ params s, compile c params = .ok s → s.ofKeyword .from =
        [⟨.builder, .from, "docker.io/python:" ++ c.pythonVersion ++ "-" ++ c.flavor.imageTag ++
            " AS builder"⟩,
          ⟨.runtime, .from,
            "docker.io/python:" ++ c.pythonVersion ++ "-" ++ c.flavor.imageTag⟩] := by
  obtain ⟨t, hselect, hadmits⟩ := Config.resolve_eq_ok_iff.mp h
  obtain ⟨text, htext, hchoose⟩ :=
    Config.exists_explicitVersion_of_pythonVersionOf hadmits.pythonVersion
  obtain ⟨r, hr, hparse, hspelled, hknown, hline⟩ := Version.exists_release_of_choose hchoose
  exact ⟨t, text, r, hselect, htext, hr, hparse, hspelled, hknown, hline,
    fun params s hs ↦ ofKeyword_from_of_compile hs⟩

/-- A version with a letter in front and a zero too many. -/
theorem baseImage_of_resolve_spelled :
    let m : Manifest :=
      { project := { name := "app", requiresPython := some ">=3.8" }
        targets := .ofList [("api", { flavor := some "alpine" })] }
    let ctx : Context := ⟨.ok " v3.09.1 \n3.13\n", fun _ ↦ .ok []⟩
    let c : Config :=
      { name := "app", target := some "api", pythonVersion := "v3.09.1", flavor := .alpine }
    Config.resolve m none ctx = .ok c ∧
      (∃ r : Release, r.IsWritable ∧ Version.parse "v3.09.1" = .ok r.toVersion ∧
        r.IsSpelled "v3.09.1") ∧
      ∃ s : Script, compile c .empty = .ok s ∧ s.ofKeyword .from =
        [⟨.builder, .from, "docker.io/python:v3.09.1-alpine AS builder"⟩,
          ⟨.runtime, .from, "docker.io/python:v3.09.1-alpine"⟩] := by
  intro m ctx c
  have hc : Config.resolve m none ctx = .ok c := by decide
  have hsome : (compile c .empty).toOption.isSome = true := by decide +kernel
  obtain ⟨s, hs⟩ := exists_eq_ok_of_isSome hsome
  obtain ⟨t, text, r, -, -, hr, hparse, hspelled, -, -, hfrom⟩ := baseImage_of_resolve hc
  exact ⟨hc, ⟨r, hr, hparse, hspelled (by decide)⟩, s, hs, hfrom _ s hs⟩

/-- A version with a letter in front is no rendering of numbers. -/
theorem pythonVersion_ne_render :
    let m : Manifest :=
      { project := { name := "a" }, targets := .ofList [("t", { pythonVersion := some "v3.9" })] }
    ∃ c, Config.resolve m none .none = .ok c ∧ c.pythonVersion = "v3.9" ∧
      Version.parse c.pythonVersion = .ok (Release.toVersion [3, 9]) ∧
      ∀ r : Release, c.pythonVersion ≠ r.render := by
  intro m
  let c : Config := { name := "a", target := some "t", pythonVersion := "v3.9" }
  have hc : Config.resolve m none .none = .ok c := by decide
  refine ⟨c, hc, rfl, by decide, fun r hr ↦ ?_⟩
  have hv : 'v' ∈ c.pythonVersion.toList := by decide
  rw [hr] at hv
  cases Release.isReleaseChar_of_mem_render hv

end Script

end ContainerBuild
