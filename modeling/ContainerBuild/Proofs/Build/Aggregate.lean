import ContainerBuild.Proofs.Build.Outcome
import ContainerBuild.Proofs.Dict.Lookup
import ContainerBuild.Proofs.Platform.Names

/-!
# Nothing is lost in an outcome

The results of several platforms go into one outcome, under keys that are made from the names of
the platforms. The platforms of a list have names of their own, and so every result is found
under its keys, as it came from the engine.
-/

namespace ContainerBuild

namespace BuildOutcome

variable {α : Type} {key : String} {value : α} {l pairs : List (String × α)}
  {results : List PlatformResult} {result : PlatformResult}

private theorem put_of_not_mem (h : key ∉ l.map Prod.fst) :
    put key value l = l ++ [(key, value)] := by
  induction l with
  | nil => rfl
  | cons p rest ih =>
    rw [List.map_cons, List.mem_cons, not_or] at h
    rw [put, if_neg (Ne.symm h.1), ih h.2]
    rfl

private theorem putAll_of_nodup (h : (pairs.map Prod.fst).Nodup) : putAll pairs = pairs := by
  have hfrom (l : List (String × α)) (hl : ((l ++ pairs).map Prod.fst).Nodup) :
      pairs.foldl (fun l p ↦ put p.1 p.2 l) l = l ++ pairs := by
    induction pairs generalizing l with
    | nil => simp
    | cons p pairs ih =>
      have hp : p.1 ∉ l.map Prod.fst := by
        rw [List.map_append, List.nodup_append] at hl
        exact fun hmem ↦ hl.2.2 _ hmem _ (List.mem_map_of_mem List.mem_cons_self) rfl
      rw [List.foldl_cons, put_of_not_mem hp, ih]
      · simp
      · simpa using h.of_cons
      · simpa using hl
  simpa [putAll] using hfrom [] h

/-- The metadata of several platforms, before the keys are looked at. -/
def metadataPairs (results : List PlatformResult) : List (String × Json.Value) :=
  results.flatMap (fun r ↦
    [(imageConfigKey ++ "/" ++ r.id, r.output.imageConfig),
     (buildInfoKey ++ "/" ++ r.id, r.output.buildInfo)]) ++ [(platformsKey, platformList results)]

/-- The metadata keys of a platform. -/
def keysOf (id : String) : List String := [imageConfigKey ++ "/" ++ id, buildInfoKey ++ "/" ++ id]

private theorem keys_metadataPairs (results : List PlatformResult) :
    (metadataPairs results).map Prod.fst =
      (results.map (·.id)).flatMap keysOf ++ [platformsKey] := by
  simp only [metadataPairs, keysOf, List.map_append, List.map_flatMap, List.flatMap_map,
    List.map_cons, List.map_nil]

/-- A key of a platform tells what it stands for, and the platform. -/
theorem mem_keysOf {id key : String} :
    key ∈ keysOf id ↔ key = imageConfigKey ++ "/" ++ id ∨ key = buildInfoKey ++ "/" ++ id := by
  simp [keysOf]

/-- The image configuration and the build information of platforms are kept apart. -/
theorem imageConfigKey_ne_buildInfoKey (a b : String) :
    imageConfigKey ++ "/" ++ a ≠ buildInfoKey ++ "/" ++ b := by
  intro h
  have := congrArg (fun s ↦ s.toList[15]?) h
  simp [imageConfigKey, buildInfoKey] at this

private theorem platformsKey_not_mem_keysOf (id : String) : platformsKey ∉ keysOf id := by
  intro h
  rcases mem_keysOf.mp h with h | h
  · have := congrArg (fun s ↦ s.toList.head?) h
    simp [imageConfigKey, platformsKey] at this
  · have := congrArg (fun s ↦ s.toList.head?) h
    simp [buildInfoKey, platformsKey] at this

private theorem disjoint_keysOf {a b : String} (h : a ≠ b) : (keysOf a).Disjoint (keysOf b) := by
  intro key ha hb
  rcases mem_keysOf.mp ha with rfl | rfl <;> rcases mem_keysOf.mp hb with heq | heq
  · exact h (by simpa using heq)
  · exact imageConfigKey_ne_buildInfoKey _ _ heq
  · exact imageConfigKey_ne_buildInfoKey _ _ heq.symm
  · exact h (by simpa using heq)

/-- Keys of platforms with names of their own are different. -/
theorem nodup_keys_metadataPairs (h : (results.map (·.id)).Nodup) :
    ((metadataPairs results).map Prod.fst).Nodup := by
  rw [keys_metadataPairs, List.nodup_append]
  refine ⟨List.nodup_flatMap.mpr ⟨fun id _ ↦ ?_, h.imp disjoint_keysOf⟩, List.nodup_singleton _, ?_⟩
  · simpa [keysOf] using imageConfigKey_ne_buildInfoKey id id
  · intro key hkey other hother
    obtain ⟨id, -, hid⟩ := List.mem_flatMap.mp hkey
    rintro rfl
    rw [List.mem_singleton.mp hother] at hid
    exact platformsKey_not_mem_keysOf id hid

private theorem several_of_nodup (h : (results.map (·.id)).Nodup) :
    (several results).metadata = metadataPairs results ∧
      (several results).refs = results.map fun r ↦ (r.id, r.output.reference) := by
  refine ⟨putAll_of_nodup (nodup_keys_metadataPairs h), putAll_of_nodup ?_⟩
  rwa [List.map_map]

private theorem imageConfigKey_append (id : String) :
    imageConfigKey ++ "/" ++ id = "containerimage.config/" ++ id :=
  congrArg (· ++ id) (by decide : imageConfigKey ++ "/" = "containerimage.config/")

private theorem buildInfoKey_append (id : String) :
    buildInfoKey ++ "/" ++ id = "containerimage.buildinfo/" ++ id :=
  congrArg (· ++ id) (by decide : buildInfoKey ++ "/" = "containerimage.buildinfo/")

private theorem platformList_eq (results : List PlatformResult) :
    platformList results = .object [("Platforms", .array (results.map fun r ↦
      .object [("ID", .text r.platform.render),
        ("Platform", .object ([("os", .text r.platform.os),
          ("architecture", .text r.platform.architecture)] ++
          (r.platform.variant.map fun variant ↦ ("variant", .text variant)).toList))]))] := rfl

/-- Whether every result of a list is found in an outcome, under the keys of its platform, and
the platforms with their names in the order of the list, and nothing else. -/
structure Holds (o : BuildOutcome) (results : List PlatformResult) : Prop where
  length_metadata : o.metadata.length = 2 * results.length + 1
  nodup_metadata : (o.metadata.map Prod.fst).Nodup
  length_refs : o.refs.length = results.length
  nodup_refs : (o.refs.map Prod.fst).Nodup
  imageConfig : ∀ r ∈ results,
    o.metadata.lookup ("containerimage.config/" ++ r.platform.render) =
      some r.output.imageConfig
  buildInfo : ∀ r ∈ results,
    o.metadata.lookup ("containerimage.buildinfo/" ++ r.platform.render) =
      some r.output.buildInfo
  refs : ∀ r ∈ results, o.refs.lookup r.platform.render = some r.output.reference
  platforms : o.metadata.lookup "refs.platforms" =
    some (.object [("Platforms", .array (results.map fun r ↦
      .object [("ID", .text r.platform.render),
        ("Platform", .object ([("os", .text r.platform.os),
          ("architecture", .text r.platform.architecture)] ++
          (r.platform.variant.map fun variant ↦ ("variant", .text variant)).toList))]))])
  reference : o.reference = none

private theorem holds_several (h : (results.map (·.id)).Nodup) :
    (several results).Holds results := by
  obtain ⟨hmetadata, hrefs⟩ := several_of_nodup h
  have hkeys := nodup_keys_metadataPairs h
  have hids : ((results.map fun r ↦ (r.id, r.output.reference)).map Prod.fst).Nodup := by
    rwa [List.map_map]
  constructor
  · rw [hmetadata]
    simp [metadataPairs, Nat.mul_comm]
  · rwa [hmetadata]
  · rw [hrefs, List.length_map]
  · rwa [hrefs]
  · intro r hr
    rw [hmetadata, ← imageConfigKey_append]
    exact Dict.lookup_of_mem hkeys
      (List.mem_append_left _ (List.mem_flatMap.mpr ⟨r, hr, List.mem_cons_self⟩))
  · intro r hr
    rw [hmetadata, ← buildInfoKey_append]
    exact Dict.lookup_of_mem hkeys (List.mem_append_left _ (List.mem_flatMap.mpr
      ⟨r, hr, List.mem_cons_of_mem _ List.mem_cons_self⟩))
  · intro r hr
    rw [hrefs]
    exact Dict.lookup_of_mem hids (List.mem_map_of_mem hr)
  · rw [hmetadata, ← platformList_eq]
    exact Dict.lookup_of_mem hkeys (List.mem_append_right _ List.mem_cons_self)
  · rfl

end BuildOutcome

namespace Build

variable {ε : Type} {session : Session ε} {r : BuildRequest} {native : Platform}
  {output : Nat → SolveOutput}

/-- The results of tasks that solve. -/
def solvedResults (r : BuildRequest) (native : Platform) (output : Nat → SolveOutput) :
    List PlatformResult :=
  r.targets.mapIdx fun i target ↦ ⟨target.getD native, output i⟩

/-- When all tasks solve, whatever the course, the outcome is made from the results of all. -/
theorem execute_of_all_solved (hnative : session.defaultPlatform = .ok native)
    (hsolved : ∀ (i : Nat) (h : i < r.targets.length),
      session.solve i r.script (r.solveOptions native r.targets[i]) = .solved (output i))
    (c : Course r.targets.length) (numbering : Numbering) :
    execute session r c.events numbering = .ok (r.outcome (solvedResults r native output)) := by
  have hverdicts : verdicts session r native = (solvedResults r native output).map .ok := by
    apply List.ext_getElem
    · simp [length_verdicts, solvedResults]
    · intro i hi hj
      have hlt : i < r.targets.length := by rwa [length_verdicts] at hi
      simp [verdicts, solvedResults, hsolved i hlt, verdict]
  have hnone : c.order.findSome? (failure? session r native) = none := by
    rw [findSome?_failure?_eq_none, hverdicts]
    intro v hv
    obtain ⟨result, -, rfl⟩ := List.mem_map.mp hv
    exact ⟨result, rfl⟩
  rw [execute_course hnative c, hnone, hverdicts, List.filterMap_map]
  simp [Function.comp_def, Except.toOption]

/-- The targets of a request that names platforms are these platforms. -/
theorem targets_eq (hne : r.platforms ≠ []) : r.targets = r.platforms.map some := by
  simp [BuildRequest.targets, hne]

private theorem solvedResults_eq (hne : r.platforms ≠ []) :
    solvedResults r native output = r.platforms.mapIdx fun i p ↦ ⟨p, output i⟩ := by
  rw [solvedResults, targets_eq hne]
  apply List.ext_getElem <;> simp

private theorem solvedResults_eq_singleton (h : r.isMulti = false) :
    ∃ p, solvedResults r native output = [⟨p, output 0⟩] := by
  obtain ⟨target, ht⟩ := exists_targets_eq_singleton h
  exact ⟨target.getD native, by rw [solvedResults, ht]; rfl⟩

/-- There are several targets exactly when several platforms are asked for. -/
theorem isMulti_iff : r.isMulti = true ↔ 2 ≤ r.platforms.length := by
  cases hp : r.platforms with
  | nil => simp [BuildRequest.isMulti, BuildRequest.targets, hp]
  | cons p ps => simp [BuildRequest.isMulti, BuildRequest.targets, hp, Nat.succ_le_iff]

/-- Whenever the tasks of a request for the platforms of a list all solve, no result is lost. Of
several platforms, which all differ, the outcome holds each one's own result under its name, and
all of them in the order of the request. For one platform, or none, it holds the only result. -/
theorem execute_of_parseList [Platform.Machine] {list : String}
    (hlist : Platform.parseList list = .ok r.platforms)
    (hnative : session.defaultPlatform = .ok native)
    (hsolved : ∀ (i : Nat) (h : i < r.targets.length),
      session.solve i r.script (r.solveOptions native r.targets[i]) = .solved (output i))
    (c : Course r.targets.length) (numbering : Numbering) :
    r.platforms.Nodup ∧
      ∃ outcome, execute session r c.events numbering = .ok outcome ∧
        (2 ≤ r.platforms.length →
          outcome.Holds (r.platforms.mapIdx fun i p ↦ ⟨p, output i⟩)) ∧
        (r.platforms.length ≤ 1 →
          outcome.metadata = [("containerimage.config", (output 0).imageConfig),
            ("containerimage.buildinfo", (output 0).buildInfo)] ∧
          outcome.refs = [] ∧ outcome.reference = some (output 0).reference) := by
  obtain ⟨hnodup, hnames⟩ := Platform.nodup_of_parseList hlist
  refine ⟨hnodup, _, execute_of_all_solved hnative hsolved c numbering, fun h ↦ ?_, fun h ↦ ?_⟩
  · have hne : r.platforms ≠ [] := List.length_pos_iff.mp (by omega)
    have hids : (r.platforms.mapIdx fun i p ↦ (⟨p, output i⟩ : PlatformResult)).map (·.id) =
        r.platforms.map Platform.render := by
      apply List.ext_getElem <;> simp [PlatformResult.id]
    rw [BuildRequest.outcome, if_pos (isMulti_iff.mpr h), solvedResults_eq hne]
    exact BuildOutcome.holds_several (hids ▸ hnames)
  · have hsingle : r.isMulti = false := by
      rw [← Bool.not_eq_true, isMulti_iff]
      omega
    obtain ⟨p, hp⟩ := @solvedResults_eq_singleton r native output hsingle
    rw [BuildRequest.outcome, hsingle, hp]
    exact ⟨rfl, rfl, rfl⟩

/-- Two platforms, each with its own result, that finish the other way round. One is named twice,
under two of its aliases. -/
theorem execute_of_parseList_aliases :
    let _ : Platform.Machine := .x86
    let output : Nat → SolveOutput := fun i ↦
      if i = 0 then ⟨.text "config", .text "info", "first"⟩
      else ⟨.text "other config", .text "other info", "second"⟩
    let session : Session String := ⟨.ok ⟨"linux", "amd64", none⟩, fun i _ _ ↦ .solved (output i)⟩
    let request : BuildRequest :=
      { script := "FROM scratch\n"
        platforms := [⟨"linux", "arm64", none⟩, ⟨"linux", "arm", some "v7"⟩] }
    Platform.parseList "aarch64, Linux/ARM ,linux/arm64/v8" = .ok request.platforms ∧
      ∃ outcome, execute session request (eventsOf [1, 0]) = .ok outcome ∧
        outcome.metadata.length = 5 ∧
        outcome.metadata.lookup "containerimage.config/linux/arm64" = some (.text "config") ∧
        outcome.metadata.lookup "containerimage.buildinfo/linux/arm/v7" =
          some (.text "other info") ∧
        outcome.metadata.lookup "refs.platforms" = some (.object [("Platforms", .array
          [.object [("ID", .text "linux/arm64"),
            ("Platform", .object [("os", .text "linux"), ("architecture", .text "arm64")])],
          .object [("ID", .text "linux/arm/v7"),
            ("Platform", .object [("os", .text "linux"), ("architecture", .text "arm"),
              ("variant", .text "v7")])]])]) ∧
        outcome.refs.lookup "linux/arm64" = some "first" ∧
        outcome.refs.lookup "linux/arm/v7" = some "second" := by
  intro _ output session request
  have hlist : Platform.parseList "aarch64, Linux/ARM ,linux/arm64/v8" =
      .ok request.platforms := by decide +kernel
  obtain ⟨-, outcome, hexecute, hseveral, -⟩ :=
    @execute_of_parseList String session request ⟨"linux", "amd64", none⟩ output _ _ hlist rfl
      (fun _ _ ↦ rfl) (Course.ofOrder [1, 0] (by decide)) .counting
  have hholds := hseveral (by decide)
  have hfirst : (⟨⟨"linux", "arm64", none⟩, output 0⟩ : PlatformResult) ∈
      request.platforms.mapIdx fun i p ↦ ⟨p, output i⟩ := List.mem_cons_self
  have hsecond : (⟨⟨"linux", "arm", some "v7"⟩, output 1⟩ : PlatformResult) ∈
      request.platforms.mapIdx fun i p ↦ ⟨p, output i⟩ :=
    List.mem_cons_of_mem _ List.mem_cons_self
  exact ⟨hlist, outcome, hexecute, hholds.length_metadata, hholds.imageConfig _ hfirst,
    hholds.buildInfo _ hsecond, hholds.platforms, hholds.refs _ hfirst, hholds.refs _ hsecond⟩

end Build

end ContainerBuild
