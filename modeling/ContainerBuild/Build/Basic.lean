import ContainerBuild.CacheImport
import ContainerBuild.Json.Basic
import ContainerBuild.Platform

/-!
# Builds

What is asked of a build engine for each platform, what it gives back, and how the
results of all platforms go together.
-/

namespace ContainerBuild

/-- What an engine needs besides the script. -/
structure SolveOptions where
  buildArgs : Dict String := .empty
  labels : Dict String := .empty
  /-- Paths of the context that the engine does not get. -/
  excludes : List String := []
  /-- The platforms on which the build itself runs. -/
  buildPlatforms : List Platform := []
  /-- The platform to build for; the engine's own when there is none. -/
  targetPlatform : Option Platform := none
  /-- Whether each platform gets names of its own. -/
  perPlatform : Bool := false
  cacheImports : List CacheImport := []
deriving DecidableEq, Inhabited

/-- What an engine gives back for one platform. -/
structure SolveOutput where
  imageConfig : Json.Value
  buildInfo : Json.Value
  /-- The name of what was built. -/
  reference : String
deriving Inhabited

/-- The result of a build for one platform. -/
structure PlatformResult where
  platform : Platform
  output : SolveOutput
deriving Inhabited

/-- The name of a result among others. -/
def PlatformResult.id (r : PlatformResult) : String := r.platform.render

/-- The results of all platforms. The pairs are in the order of the first insertion of
their keys, and each key stands once. -/
structure BuildOutcome where
  metadata : List (String × Json.Value)
  /-- The references by platform, when there are several platforms. -/
  refs : List (String × String)
  /-- The only reference, when there is one platform. -/
  reference : Option String
  /-- The results in the order of the request. -/
  platforms : List PlatformResult
deriving Inhabited

namespace BuildOutcome

/-- Gives a key its value, in place of an earlier one or at the end. -/
def put {α : Type} (key : String) (value : α) : List (String × α) → List (String × α)
  | [] => [(key, value)]
  | (k, v) :: rest => if k = key then (key, value) :: rest else (k, v) :: put key value rest

/-- Puts pairs from left to right. -/
def putAll {α : Type} (pairs : List (String × α)) : List (String × α) :=
  pairs.foldl (fun l p ↦ put p.1 p.2 l) []

/-- A new key goes to the end, and a known one stays where it is. -/
theorem keys_put {α : Type} (key : String) (value : α) (l : List (String × α)) :
    (put key value l).map Prod.fst =
      if key ∈ l.map Prod.fst then l.map Prod.fst else l.map Prod.fst ++ [key] := by
  induction l with
  | nil => simp [put]
  | cons p rest ih =>
    obtain ⟨k, v⟩ := p
    unfold put
    split
    · next h => simp [h]
    · next h =>
      rw [List.map_cons, ih]
      by_cases hm : key ∈ rest.map Prod.fst
      · simp [hm]
      · simp [hm, Ne.symm h]

/-- The keys of pairs that are put one after another, each where it came first. -/
theorem keys_putAll {α : Type} (pairs : List (String × α)) :
    (putAll pairs).map Prod.fst = (pairs.map Prod.fst).eraseDups := by
  suffices h : ∀ l : List (String × α),
      (pairs.foldl (fun l p ↦ put p.1 p.2 l) l).map Prod.fst =
        l.map Prod.fst ++ ((pairs.map Prod.fst).removeAll (l.map Prod.fst)).eraseDups by
    simpa [putAll] using h []
  intro l
  induction pairs generalizing l with
  | nil => simp
  | cons p pairs ih =>
    rw [List.foldl_cons, ih, keys_put, List.map_cons]
    by_cases hm : p.1 ∈ l.map Prod.fst
    · rw [if_pos hm, List.cons_removeAll, if_neg (by simpa using hm)]
    · rw [if_neg hm, List.cons_removeAll, if_pos (by simpa using hm), List.eraseDups_cons]
      simp only [List.removeAll, List.filter_filter, List.append_assoc, List.singleton_append]
      congr 3
      refine List.filter_congr fun k _ ↦ ?_
      rw [Bool.eq_iff_iff]
      simp [or_comm]

/-- A platform as JSON. -/
def platformJson (p : Platform) : Json.Value :=
  .object ([("os", .text p.os), ("architecture", .text p.architecture)] ++
    (p.variant.map fun v ↦ ("variant", Json.Value.text v)).toList)

/-- The list of all platforms with their names. -/
def platformList (results : List PlatformResult) : Json.Value :=
  .object [("Platforms", .array (results.map fun r ↦
    .object [("ID", .text r.id), ("Platform", platformJson r.platform)]))]

/-- The metadata key of the image configuration. -/
def imageConfigKey : String := "containerimage.config"

/-- The metadata key of the build information. -/
def buildInfoKey : String := "containerimage.buildinfo"

/-- The metadata key of the list of platforms. -/
def platformsKey : String := "refs.platforms"

/-- The results of several platforms, under keys that name the platform. -/
def several (results : List PlatformResult) : BuildOutcome where
  metadata := putAll (results.flatMap (fun r ↦
    [(imageConfigKey ++ "/" ++ r.id, r.output.imageConfig),
     (buildInfoKey ++ "/" ++ r.id, r.output.buildInfo)]) ++
    [(platformsKey, platformList results)])
  refs := putAll (results.map fun r ↦ (r.id, r.output.reference))
  reference := none
  platforms := results

/-- The result of one platform. -/
def single (results : List PlatformResult) : BuildOutcome where
  metadata := putAll (results.flatMap fun r ↦
    [(imageConfigKey, r.output.imageConfig), (buildInfoKey, r.output.buildInfo)])
  refs := []
  reference := results.getLast?.map (·.output.reference)
  platforms := results

end BuildOutcome

end ContainerBuild
