import ContainerBuild.Proofs.Build.Course

/-!
# What a build comes to

A build whose tasks all solve has one outcome, whatever the course, and the first task that
fails decides every other build. The outcome holds the results in the order of the request,
and its keys stand in that order too.
-/

namespace ContainerBuild

/-- Whether an outcome keeps its platforms apart: there is no reference for all of them, and
each has metadata and a reference under its own name. -/
def BuildOutcome.IsNamespaced (o : BuildOutcome) : Prop :=
  o.reference = none ∧ ∀ p ∈ o.platforms,
    imageConfigKey ++ "/" ++ p.id ∈ o.metadata.map Prod.fst ∧
    buildInfoKey ++ "/" ++ p.id ∈ o.metadata.map Prod.fst ∧
    p.id ∈ o.refs.map Prod.fst

namespace BuildOutcome

/-- The metadata keys of several platforms, each where it came first. -/
theorem keys_metadata_several (results : List PlatformResult) :
    (several results).metadata.map Prod.fst =
      (results.flatMap (fun p ↦
        [imageConfigKey ++ "/" ++ p.id, buildInfoKey ++ "/" ++ p.id]) ++
        [platformsKey]).eraseDups := by
  simp only [several, keys_putAll, List.map_append, List.map_flatMap, List.map_cons,
    List.map_nil]

/-- The names under which several references stand, each where it came first. -/
theorem keys_refs_several (results : List PlatformResult) :
    (several results).refs.map Prod.fst = (results.map (·.id)).eraseDups := by
  simp only [several, keys_putAll, List.map_map, Function.comp_def]

private theorem keys_metadata_single (result : PlatformResult) :
    (single [result]).metadata.map Prod.fst = [imageConfigKey, buildInfoKey] := by
  simp [single, keys_putAll, imageConfigKey, buildInfoKey, List.eraseDups_cons]

private theorem isNamespaced_several (results : List PlatformResult) :
    (several results).IsNamespaced := by
  refine ⟨rfl, fun p hp ↦ ⟨?_, ?_, ?_⟩⟩
  · rw [keys_metadata_several, List.mem_eraseDups]
    exact List.mem_append_left _ (List.mem_flatMap.mpr ⟨p, hp, by simp⟩)
  · rw [keys_metadata_several, List.mem_eraseDups]
    exact List.mem_append_left _ (List.mem_flatMap.mpr ⟨p, hp, by simp⟩)
  · rw [keys_refs_several, List.mem_eraseDups]
    exact List.mem_map_of_mem hp

private theorem not_isNamespaced_single {results : List PlatformResult} (h : results ≠ []) :
    ¬ (single results).IsNamespaced := by
  rintro ⟨hr, -⟩
  simp [single, List.getLast?_eq_none_iff, h] at hr

end BuildOutcome

namespace Build

variable {ε : Type} {session : Session ε} {r : BuildRequest} {native : Platform}
  {numbering : Numbering}

private theorem slots_reached_course (c : Course r.targets.length) :
    (reached session r native c.events).slots =
      (verdicts session r native).map Except.toOption := by
  apply List.ext_getElem
  · simp only [reached, List.length_mapIdx, List.length_map]
  · intro i hi _
    have hlt : i < r.targets.length := by
      simpa only [reached, List.length_mapIdx, length_verdicts] using hi
    have hm : Event.finish i ∈ c.events := (c.startsFirst i hlt).subset (by simp)
    simp only [reached, List.getElem_mapIdx, List.getElem_map, if_pos hm]

private theorem results_of_isSome {tasks : List Task} {slots : List (Option PlatformResult)}
    (h : ∀ slot ∈ slots, slot.isSome) :
    (results tasks slots : Except (BuildError ε) _) = .ok (slots.filterMap id) := by
  unfold results
  split
  · next task slot hf =>
    have hm := List.of_mem_zip (List.mem_of_find?_eq_some hf)
    have hn := List.find?_some hf
    have hs := h slot hm.2
    cases slot with
    | none => cases hs
    | some result => cases hn
  · rfl

/-- No task of a course fails when none of all tasks does. -/
theorem findSome?_failure?_eq_none (c : Course r.targets.length) :
    c.order.findSome? (failure? session r native) = none ↔
      ∀ v ∈ verdicts session r native, ∃ result, v = .ok result := by
  rw [List.findSome?_eq_none_iff]
  constructor
  · intro h v hv
    obtain ⟨i, hi, rfl⟩ := List.mem_iff_getElem.mp hv
    have hm : i ∈ c.order := by
      rw [length_verdicts] at hi
      exact c.order_perm.mem_iff.mpr (List.mem_range.mpr hi)
    have hf := h i hm
    rw [failure?, List.getElem?_eq_getElem hi] at hf
    cases hv : (verdicts session r native)[i] with
    | ok result => exact ⟨result, rfl⟩
    | error e => simp [hv] at hf
  · intro h i hi
    have hlt : i < (verdicts session r native).length := by
      rw [length_verdicts]
      exact List.mem_range.mp (c.order_perm.mem_iff.mp hi)
    obtain ⟨result, hv⟩ := h _ (List.getElem_mem hlt)
    rw [failure?, List.getElem?_eq_getElem hlt, hv]

/-- A build comes to the first failure among its tasks, or else to the results of all. -/
theorem execute_course (hnative : session.defaultPlatform = .ok native)
    (c : Course r.targets.length) :
    execute session r c.events numbering =
      match c.order.findSome? (failure? session r native) with
      | some e => .error e
      | none => .ok (r.outcome ((verdicts session r native).filterMap Except.toOption)) := by
  have hp := perform_course session native numbering c
  simp only [execute, hnative, State.result]
  cases hf : c.order.findSome? (failure? session r native) with
  | some e =>
    rw [hf] at hp
    simp only [hp]
  | none =>
    rw [hf] at hp
    have hall := (findSome?_failure?_eq_none c).mp hf
    rw [hp, slots_reached_course, results_of_isSome]
    · simp [reached, Except.map, List.filterMap_map]
    · intro slot hs
      obtain ⟨v, hv, rfl⟩ := List.mem_map.mp hs
      obtain ⟨result, rfl⟩ := hall v hv
      rfl

private theorem filterMap_getElem?_range {α : Type} (l : List α) :
    (List.range l.length).filterMap (l[·]?) = l := by
  induction l with
  | nil => rfl
  | cons a l ih =>
    rw [List.length_cons, List.range_succ_eq_map, List.filterMap_cons, List.filterMap_map]
    exact congrArg (a :: ·) ih

private theorem calls_reached_perm (c : Course r.targets.length) :
    (reached session r native c.events).calls.Perm
      ((r.calls native).map fun options ↦ (r.script, options)) := by
  have hlen : r.targets.length = (r.calls native).length := by
    rw [BuildRequest.calls, List.length_map]
  have hp := c.starts_perm.filterMap fun i ↦
    (r.calls native)[i]?.map fun options ↦ (r.script, options)
  refine hp.trans (.of_eq ?_)
  rw [hlen, ← List.map_filterMap, filterMap_getElem?_range]

/-- The verdicts when the calls end with outputs that depend on their options only. -/
theorem verdicts_of_solved {engine : Engine ε} {output : SolveOptions → SolveOutput}
    (h : ∀ o ∈ r.calls native, engine.solve r.script o = .solved (output o)) :
    verdicts engine.session r native =
      r.targets.map fun t ↦ .ok ⟨t.getD native, output (r.solveOptions native t)⟩ := by
  apply List.ext_getElem
  · rw [length_verdicts, List.length_map]
  · intro i hi hj
    have hlt : i < r.targets.length := by simpa using hj
    have hm : r.solveOptions native r.targets[i] ∈ r.calls native :=
      List.mem_map_of_mem (List.getElem_mem _)
    simp only [verdicts, List.getElem_mapIdx, List.getElem_map, Engine.session, h _ hm, verdict]

/-- A request always has a target. -/
theorem targets_ne_nil (r : BuildRequest) : r.targets ≠ [] := by
  unfold BuildRequest.targets
  split
  · exact List.cons_ne_nil _ _
  · next h => simpa using h

/-- A request without several platforms has one target. -/
theorem exists_targets_eq_singleton (h : r.isMulti = false) : ∃ t, r.targets = [t] := by
  have hle : r.targets.length ≤ 1 := by simpa [BuildRequest.isMulti] using h
  have hpos : 0 < r.targets.length := List.length_pos_iff.mpr (targets_ne_nil r)
  exact List.length_eq_one_iff.mp (by omega)

/-- The outcome of a request has the results that it is made from. -/
theorem platforms_outcome (results : List PlatformResult) :
    (r.outcome results).platforms = results := by
  unfold BuildRequest.outcome
  split <;> rfl

/-- No task fails when all calls solve. -/
theorem findSome?_failure?_of_solved {engine : Engine ε} {output : SolveOptions → SolveOutput}
    (h : ∀ o ∈ r.calls native, engine.solve r.script o = .solved (output o))
    (c : Course r.targets.length) :
    c.order.findSome? (failure? engine.session r native) = none := by
  rw [findSome?_failure?_eq_none, verdicts_of_solved h]
  intro v hv
  obtain ⟨t, -, rfl⟩ := List.mem_map.mp hv
  exact ⟨_, rfl⟩

/-- When all calls solve, the outcome holds their results in the order of the request. -/
theorem execute_of_solved {engine : Engine ε} {output : SolveOptions → SolveOutput}
    (hnative : engine.defaultPlatform = .ok native)
    (h : ∀ o ∈ r.calls native, engine.solve r.script o = .solved (output o))
    (c : Course r.targets.length) :
    execute engine.session r c.events numbering =
      .ok (r.outcome (r.targets.map fun t ↦
        ⟨t.getD native, output (r.solveOptions native t)⟩)) := by
  have hsession : engine.session.defaultPlatform = .ok native := hnative
  rw [execute_course hsession c, findSome?_failure?_of_solved h c,
    verdicts_of_solved h, List.filterMap_map]
  simp [Function.comp_def, Except.toOption]

/-- When all calls solve, the engine gets one call for each target, in some order. -/
theorem calls_perform_of_solved {engine : Engine ε} {output : SolveOptions → SolveOutput}
    (h : ∀ o ∈ r.calls native, engine.solve r.script o = .solved (output o))
    (c : Course r.targets.length) (numbering : Numbering) :
    (perform engine.session r native numbering c.events).calls.Perm
      ((r.calls native).map fun options ↦ (r.script, options)) := by
  have hp := perform_course engine.session native numbering c
  rw [findSome?_failure?_of_solved h c] at hp
  rw [hp]
  exact calls_reached_perm c

private theorem isNamespaced_outcome_iff {results : List PlatformResult} (h : results ≠ []) :
    (r.outcome results).IsNamespaced ↔ r.isMulti = true := by
  unfold BuildRequest.outcome
  split
  · next hm => exact iff_of_true (BuildOutcome.isNamespaced_several results) hm
  · next hm => exact iff_of_false (BuildOutcome.not_isNamespaced_single h) hm

/-- Whatever the order in which the tasks start and finish, a build whose calls all solve,
with outputs that depend on their options only, has the same outcome. The outcome has one
result for each target, in the order of the request, and its keys stand in that order. The
engine gets one call for each target, and the calls differ only in the target. -/
theorem execute_eq_of_solved {engine : Engine ε} {r : BuildRequest} {native : Platform}
    {output : SolveOptions → SolveOutput}
    (hnative : engine.defaultPlatform = .ok native)
    (hsolved : ∀ o ∈ r.calls native, engine.solve r.script o = .solved (output o)) :
    ∃ (outcome : BuildOutcome) (base : SolveOptions),
      (∀ (c : Course r.targets.length) (numbering : Numbering),
        execute engine.session r c.events numbering = .ok outcome ∧
        (perform engine.session r native numbering c.events).calls.Perm
          (r.targets.map fun t ↦ (r.script, { base with targetPlatform := t }))) ∧
      (∀ order : List Nat, order.Perm (List.range r.targets.length) →
        run engine r order = .ok outcome) ∧
      (r.platforms = [] → outcome.platforms =
        [⟨native, output { base with targetPlatform := none }⟩]) ∧
      (r.platforms ≠ [] → outcome.platforms = r.platforms.map fun p ↦
        ⟨p, output { base with targetPlatform := some p }⟩) ∧
      outcome = r.outcome outcome.platforms ∧
      (base.perPlatform = true →
        outcome.metadata.map Prod.fst = (outcome.platforms.flatMap (fun p ↦
          [BuildOutcome.imageConfigKey ++ "/" ++ p.id,
           BuildOutcome.buildInfoKey ++ "/" ++ p.id]) ++
          [BuildOutcome.platformsKey]).eraseDups ∧
        outcome.refs.map Prod.fst = (outcome.platforms.map (·.id)).eraseDups) ∧
      (base.perPlatform = false →
        outcome.metadata.map Prod.fst =
          [BuildOutcome.imageConfigKey, BuildOutcome.buildInfoKey] ∧
        outcome.refs = []) ∧
      (base.perPlatform = true ↔ outcome.IsNamespaced) := by
  let results : List PlatformResult :=
    r.targets.map fun t ↦ ⟨t.getD native, output (r.solveOptions native t)⟩
  have hexec (c : Course r.targets.length) (numbering : Numbering) :
      execute engine.session r c.events numbering = .ok (r.outcome results) :=
    execute_of_solved hnative hsolved c
  have hrun (order : List Nat) (ho : order.Perm (List.range r.targets.length)) :
      run engine r order = .ok (r.outcome results) := by
    rw [run]
    exact hexec (Course.ofOrder order ho) .counting
  have hplatforms : (r.outcome results).platforms = results := platforms_outcome results
  refine ⟨r.outcome results, r.solveOptions native none, fun c numbering ↦
    ⟨hexec c numbering, ?_⟩, hrun, fun he ↦ ?_, fun hn ↦ ?_, ?_, fun hm ↦ ?_, fun hs ↦ ?_, ?_⟩
  · have h := calls_perform_of_solved hsolved c numbering
    rwa [BuildRequest.calls, List.map_map] at h
  · rw [hplatforms]
    simp [results, BuildRequest.targets, he, BuildRequest.solveOptions]
  · rw [hplatforms]
    simp [results, BuildRequest.targets, hn, BuildRequest.solveOptions, Function.comp_def]
  · rw [hplatforms]
  · have hm' : r.isMulti = true := hm
    rw [hplatforms, BuildRequest.outcome, if_pos hm']
    exact ⟨BuildOutcome.keys_metadata_several results, BuildOutcome.keys_refs_several results⟩
  · have hs' : r.isMulti = false := hs
    obtain ⟨t, ht⟩ := exists_targets_eq_singleton hs'
    have hone : results = [⟨t.getD native, output (r.solveOptions native t)⟩] := by
      simp only [results, ht, List.map_cons, List.map_nil]
    rw [hone, BuildRequest.outcome, if_neg (by simp [hs'])]
    exact ⟨BuildOutcome.keys_metadata_single _, rfl⟩
  · have hne : results ≠ [] := fun h ↦ targets_ne_nil r (List.map_eq_nil_iff.mp h)
    exact (isNamespaced_outcome_iff hne).symm

/-- Two platforms whose tasks finish the other way round. -/
theorem execute_eq_of_solved_reversed :
    let engine : Engine String := ⟨.ok ⟨"linux", "amd64", none⟩, fun _ o ↦
      .solved ⟨.null, .null, (o.targetPlatform.map Platform.render).getD ""⟩⟩
    let request : BuildRequest :=
      { script := "FROM scratch\n"
        platforms := [⟨"linux", "arm64", none⟩, ⟨"linux", "amd64", none⟩] }
    ∃ outcome, run engine request [1, 0] = .ok outcome ∧
      outcome.platforms.map (·.output.reference) = ["linux/arm64", "linux/amd64"] := by
  intro engine request
  obtain ⟨outcome, base, -, hrun, -, hplatforms, -⟩ :=
    @execute_eq_of_solved String engine request ⟨"linux", "amd64", none⟩
      (fun o ↦ ⟨.null, .null, (o.targetPlatform.map Platform.render).getD ""⟩) rfl (fun _ _ ↦ rfl)
  refine ⟨outcome, hrun [1, 0] (by decide), ?_⟩
  rw [hplatforms (by decide)]
  rfl

private theorem verdict_eq_ok_iff (platform : Platform) {ending : TaskEnd ε} :
    (∃ result, verdict platform ending = .ok result) ↔ ∃ output, ending = .solved output := by
  cases ending with
  | solved output => exact ⟨fun _ ↦ ⟨output, rfl⟩, fun _ ↦ ⟨_, rfl⟩⟩
  | failed e => simp [verdict]
  | crashed => simp [verdict]

/-- How a task fails a build is its verdict, if that is no result. -/
theorem failure?_eq_some_iff {i : Nat} {error : BuildError ε} :
    failure? session r native i = some error ↔ ∃ h : i < r.targets.length,
      verdict (r.targets[i].getD native)
        (session.solve i r.script (r.solveOptions native r.targets[i])) = .error error := by
  unfold failure? verdicts
  rw [List.getElem?_mapIdx]
  by_cases h : i < r.targets.length
  · rw [List.getElem?_eq_getElem h, Option.map_some]
    cases hv : verdict (r.targets[i].getD native)
        (session.solve i r.script (r.solveOptions native r.targets[i])) with
    | ok result => simp [h, hv]
    | error e => simp [h, hv]
  · simp [h]

private theorem solved_of_failure?_eq_none {i : Nat} (hi : i < r.targets.length)
    (h : failure? session r native i = none) :
    ∃ output, session.solve i r.script (r.solveOptions native r.targets[i]) =
      .solved output := by
  apply (verdict_eq_ok_iff (r.targets[i].getD native)).mp
  cases hv : verdict (r.targets[i].getD native)
      (session.solve i r.script (r.solveOptions native r.targets[i])) with
  | ok result => exact ⟨result, rfl⟩
  | error e =>
    rw [failure?_eq_some_iff.mpr ⟨hi, hv⟩] at h
    cases h

private theorem exists_map_ok {α β : Type} {l : List (Except α β)}
    (h : ∀ v ∈ l, ∃ b, v = .ok b) : ∃ bs : List β, l = bs.map .ok := by
  induction l with
  | nil => exact ⟨[], rfl⟩
  | cons v l ih =>
    obtain ⟨b, rfl⟩ := h v List.mem_cons_self
    obtain ⟨bs, rfl⟩ := ih fun w hw ↦ h w (List.mem_cons_of_mem _ hw)
    exact ⟨b :: bs, rfl⟩

private theorem platforms_filterMap_verdicts
    (h : ∀ v ∈ verdicts session r native, ∃ result, v = .ok result) :
    ((verdicts session r native).filterMap Except.toOption).map (·.platform) =
      r.targets.map (·.getD native) := by
  obtain ⟨results, hr⟩ := exists_map_ok h
  have hlen : results.length = r.targets.length := by
    rw [← length_verdicts session r native, hr, List.length_map]
  have hf : (results.map (Except.ok (ε := BuildError ε))).filterMap Except.toOption =
      results := by
    rw [List.filterMap_map]
    exact List.filterMap_some
  rw [hr, hf]
  apply List.ext_getElem
  · rw [List.length_map, List.length_map, hlen]
  · intro i hi hj
    have hlt : i < (verdicts session r native).length := by
      rw [length_verdicts]
      simpa using hj
    have hres : i < results.length := by simpa using hi
    have hv : (verdicts session r native)[i] = .ok results[i] := by
      simp only [hr, List.getElem_map]
    rw [List.getElem_map, List.getElem_map]
    simp only [verdicts, List.getElem_mapIdx] at hv
    unfold verdict at hv
    split at hv
    · exact (congrArg PlatformResult.platform (Except.ok.inj hv)).symm
    · cases hv
    · cases hv

/-- A build gives an outcome exactly when all of its tasks solve, and then one with a result
for every target. Otherwise it fails as the first task to finish without a result does,
whatever the tasks after it come to. -/
theorem execute_eq_error_of_earliest {session : Session ε} {r : BuildRequest}
    {native : Platform} (hnative : session.defaultPlatform = .ok native)
    (c : Course r.targets.length) (numbering : Numbering) :
    ((∃ outcome, execute session r c.events numbering = .ok outcome) ↔
      ∀ (i : Nat) (h : i < r.targets.length), ∃ output,
        session.solve i r.script (r.solveOptions native r.targets[i]) = .solved output) ∧
    (∀ outcome, execute session r c.events numbering = .ok outcome →
      outcome.platforms.map (·.platform) = r.targets.map (·.getD native)) ∧
    (∀ error, execute session r c.events numbering = .error error →
      ∃ (before after : List Nat) (i : Nat) (h : i < r.targets.length),
        c.order = before ++ i :: after ∧
        (∀ j ∈ before, ∀ hj : j < r.targets.length, ∃ output,
          session.solve j r.script (r.solveOptions native r.targets[j]) = .solved output) ∧
        ((∃ e, session.solve i r.script (r.solveOptions native r.targets[i]) = .failed e ∧
            error = .failed (r.targets[i].getD native) e) ∨
          (session.solve i r.script (r.solveOptions native r.targets[i]) = .crashed ∧
            error = .crashed (.platform (r.targets[i].getD native))))) := by
  rw [execute_course hnative c]
  cases hf : c.order.findSome? (failure? session r native) with
  | none =>
    have hall := (findSome?_failure?_eq_none c).mp hf
    refine ⟨⟨fun _ i hi ↦ ?_, fun _ ↦ ⟨_, rfl⟩⟩, ?_, ?_⟩
    · have hm : i ∈ c.order := c.order_perm.mem_iff.mpr (List.mem_range.mpr hi)
      exact solved_of_failure?_eq_none hi (List.findSome?_eq_none_iff.mp hf i hm)
    · rintro outcome ho
      rw [← Except.ok.inj ho, platforms_outcome]
      exact platforms_filterMap_verdicts hall
    · rintro error he
      cases he
  | some error =>
    obtain ⟨before, i, after, horder, hi, hbefore⟩ := List.findSome?_eq_some_iff.mp hf
    obtain ⟨hlt, hv⟩ := failure?_eq_some_iff.mp hi
    refine ⟨⟨?_, fun h ↦ ?_⟩, ?_, ?_⟩
    · rintro ⟨outcome, ho⟩
      cases ho
    · obtain ⟨output, ho⟩ := h i hlt
      rw [ho] at hv
      cases hv
    · rintro outcome ho
      cases ho
    · rintro error' he
      cases he
      refine ⟨before, after, i, hlt, horder, fun j hj hjlt ↦
        solved_of_failure?_eq_none hjlt (hbefore j hj), ?_⟩
      cases hend : session.solve i r.script (r.solveOptions native r.targets[i]) with
      | solved output =>
        rw [hend] at hv
        cases hv
      | failed e =>
        rw [hend] at hv
        exact .inl ⟨e, rfl, (Except.error.inj hv).symm⟩
      | crashed =>
        rw [hend] at hv
        exact .inr ⟨rfl, (Except.error.inj hv).symm⟩

/-- Three platforms of which the second fails, but only after the third has crashed. -/
theorem execute_eq_error_of_earliest_crash :
    let session : Session String := ⟨.ok ⟨"linux", "amd64", none⟩, fun i _ _ ↦
      match i with
      | 0 => .solved ⟨.null, .null, "first"⟩
      | 1 => .failed "no space"
      | _ => .crashed⟩
    let request : BuildRequest :=
      { script := "FROM scratch\n"
        platforms := [⟨"linux", "amd64", none⟩, ⟨"linux", "arm64", none⟩,
          ⟨"linux", "arm", some "v7"⟩] }
    execute session request (eventsOf [0, 2, 1]) =
        .error (.crashed (.platform ⟨"linux", "arm", some "v7"⟩)) ∧
      ∃ before after i, [0, 2, 1] = before ++ i :: after ∧
        session.solve i request.script default = .crashed := by
  intro session request
  let native : Platform := ⟨"linux", "amd64", none⟩
  let c : Course request.targets.length := Course.ofOrder [0, 2, 1] (by decide)
  have hnative : session.defaultPlatform = .ok native := rfl
  have horder : c.order = [0, 2, 1] := Course.order_ofOrder (by decide)
  have hexecute : execute session request c.events =
      .error (.crashed (.platform ⟨"linux", "arm", some "v7"⟩)) := by
    rw [execute_course hnative c, horder]
    rfl
  obtain ⟨before, after, i, hi, hc, hbefore, ⟨e, hf, he⟩ | ⟨hcrash, he⟩⟩ :=
    (execute_eq_error_of_earliest hnative c .counting).2.2 _ hexecute
  · cases he
  · exact ⟨hexecute, before, after, i, horder.symm.trans hc, hcrash⟩

end Build

end ContainerBuild
