import ContainerBuild.Build.Schedule

/-!
# Courses of a build

A course says in which order the tasks of a build start and finish. The state that a build
reaches is a function of the events so far until a task fails, and it stays as it is from
then on. So what a build comes to depends on the order in which the tasks finish only
through the first task that fails.
-/

namespace ContainerBuild.Build

variable {ε : Type}

/-- The task that an event starts. -/
def Event.started? : Event → Option Nat
  | .start i => some i
  | .finish _ => none

/-- The task that an event finishes. -/
def Event.finished? : Event → Option Nat
  | .start _ => none
  | .finish i => some i

/-- Starts finish no task. -/
theorem filterMap_finished?_start (l : List Nat) :
    (l.map Event.start).filterMap Event.finished? = [] := by
  simp [List.filterMap_map, List.filterMap_eq_nil_iff, Event.finished?]

/-- Ends finish their tasks. -/
theorem filterMap_finished?_finish (l : List Nat) :
    (l.map Event.finish).filterMap Event.finished? = l := by
  rw [List.filterMap_map]
  exact List.filterMap_some

private theorem filterMap_started?_start (l : List Nat) :
    (l.map Event.start).filterMap Event.started? = l := by
  rw [List.filterMap_map]
  exact List.filterMap_some

private theorem filterMap_started?_finish (l : List Nat) :
    (l.map Event.finish).filterMap Event.started? = [] := by
  simp [List.filterMap_map, List.filterMap_eq_nil_iff, Event.started?]

/-- A complete course of some tasks: each starts once, and each finishes once, later. -/
structure Course (count : Nat) where
  events : List Event
  once : events.Perm ((List.range count).map .start ++ (List.range count).map .finish)
  startsFirst : ∀ i < count, List.Sublist [.start i, .finish i] events

namespace Course

variable {count : Nat}

/-- The tasks in the order in which they finish. -/
def order (c : Course count) : List Nat := c.events.filterMap Event.finished?

/-- The tasks in the order in which they start. -/
def starts (c : Course count) : List Nat := c.events.filterMap Event.started?

/-- Every task finishes once. -/
theorem order_perm (c : Course count) : c.order.Perm (List.range count) := by
  have h := c.once.filterMap Event.finished?
  rw [List.filterMap_append, filterMap_finished?_start, filterMap_finished?_finish,
    List.nil_append] at h
  exact h

/-- Every task starts once. -/
theorem starts_perm (c : Course count) : c.starts.Perm (List.range count) := by
  have h := c.once.filterMap Event.started?
  rw [List.filterMap_append, filterMap_started?_start, filterMap_started?_finish,
    List.append_nil] at h
  exact h

/-- No event happens twice. -/
theorem nodup_events (c : Course count) : c.events.Nodup := by
  refine c.once.nodup_iff.mpr (List.nodup_append.mpr ⟨?_, ?_, ?_⟩)
  · exact List.pairwise_map.mpr (List.nodup_range.imp fun h he ↦ h (Event.start.inj he))
  · exact List.pairwise_map.mpr (List.nodup_range.imp fun h he ↦ h (Event.finish.inj he))
  · intro a ha b hb he
    obtain ⟨i, -, rfl⟩ := List.mem_map.mp ha
    obtain ⟨j, -, rfl⟩ := List.mem_map.mp hb
    cases he

/-- A task that starts is one of the tasks. -/
theorem lt_of_start_mem (c : Course count) {i : Nat} (h : .start i ∈ c.events) : i < count := by
  have hm := c.once.mem_iff.mp h
  simpa using hm

/-- A task that finishes is one of the tasks. -/
theorem lt_of_finish_mem (c : Course count) {i : Nat} (h : .finish i ∈ c.events) :
    i < count := by
  have hm := c.once.mem_iff.mp h
  simpa using hm

/-- A task has started when it finishes. -/
theorem start_mem_of_finish (c : Course count) {before after : List Event} {i : Nat}
    (h : c.events = before ++ .finish i :: after) : .start i ∈ before := by
  have hi : i < count := c.lt_of_finish_mem (by simp [h])
  have hn := c.nodup_events
  have hs := c.startsFirst i hi
  rw [h] at hn hs
  obtain ⟨l₁, l₂, hl, h₁, h₂⟩ := List.sublist_append_iff.mp hs
  cases l₁ with
  | nil =>
    -- both events would have to stand from the end of the task on, where it ends again
    rw [List.nil_append] at hl
    subst hl
    have ht : List.Sublist [Event.finish i] after := by
      cases h₂ with
      | cons _ h => exact (List.sublist_cons_self _ _).trans h
    have hm : Event.finish i ∈ after := ht.subset (List.mem_singleton_self _)
    exact absurd hm (List.nodup_cons.mp (List.nodup_append.mp hn).2.1).1
  | cons a l₁ =>
    rw [List.cons_append, List.cons.injEq] at hl
    rw [hl.1]
    exact h₁.subset List.mem_cons_self

/-- The course in which the tasks start together and finish in a given order. -/
def ofOrder (order : List Nat) (h : order.Perm (List.range count)) : Course count where
  events := eventsOf order
  once := (h.map _).append (h.map _)
  startsFirst i hi := by
    have hm : i ∈ order := h.mem_iff.mpr (List.mem_range.mpr hi)
    have hs : List.Sublist [Event.start i] (order.map .start) :=
      List.singleton_sublist.mpr (List.mem_map_of_mem hm)
    have hf : List.Sublist [Event.finish i] (order.map .finish) :=
      List.singleton_sublist.mpr (List.mem_map_of_mem hm)
    exact hs.append hf

/-- The tasks finish in the order that was given. -/
theorem order_ofOrder {order : List Nat} (h : order.Perm (List.range count)) :
    (ofOrder order h).order = order := by
  simp only [Course.order, ofOrder, eventsOf, List.filterMap_append,
    filterMap_finished?_start, filterMap_finished?_finish, List.nil_append]

end Course

/-! ### What each task comes to -/

/-- The verdict on a task for a platform: its result, or how it fails the build. -/
def verdict (platform : Platform) : TaskEnd ε → Except (BuildError ε) PlatformResult
  | .solved output => .ok ⟨platform, output⟩
  | .failed e => .error (.failed platform e)
  | .crashed => .error (.crashed (.platform platform))

/-- The verdicts on all tasks, in the order of the request. -/
def verdicts (session : Session ε) (r : BuildRequest) (native : Platform) :
    List (Except (BuildError ε) PlatformResult) :=
  r.targets.mapIdx fun i target ↦
    verdict (target.getD native) (session.solve i r.script (r.solveOptions native target))

/-- How a task fails the build, if it does. -/
def failure? (session : Session ε) (r : BuildRequest) (native : Platform) (i : Nat) :
    Option (BuildError ε) :=
  match (verdicts session r native)[i]? with
  | some (.error e) => some e
  | _ => none

section Reached

variable {session : Session ε} {r : BuildRequest} {native : Platform} {numbering : Numbering}

/-- There is one verdict for each target. -/
theorem length_verdicts (session : Session ε) (r : BuildRequest) (native : Platform) :
    (verdicts session r native).length = r.targets.length :=
  List.length_mapIdx

private theorem length_tasks : (tasks numbering r native).length = r.targets.length :=
  List.length_mapIdx

private theorem taskName_number {task : Task} (h : task ∈ tasks numbering r native) :
    taskName (tasks numbering r native) task.number = .platform task.platform := by
  obtain ⟨i, hi, rfl⟩ := List.mem_mapIdx.mp h
  unfold taskName
  split
  · next other ho =>
    obtain ⟨j, hj, rfl⟩ := List.mem_mapIdx.mp (List.mem_of_find?_eq_some ho)
    have hn := List.find?_some ho
    have hij : j = i := numbering.injective j i (of_decide_eq_true hn)
    subst hij
    rfl
  · next ho =>
    have hn := List.find?_eq_none.mp ho _ h
    simp at hn

private theorem receive_join {task : Task} (h : task ∈ tasks numbering r native)
    (slots : List (Option PlatformResult)) (ending : TaskEnd ε) :
    receive (tasks numbering r native) slots (task.join ending) =
      (verdict task.platform ending).map fun result ↦ slots.set task.slot (some result) := by
  cases ending with
  | solved output => rfl
  | failed e => rfl
  | crashed =>
    simp only [Task.join, receive, verdict, taskName_number h]
    rfl

/-! ### The state that a build reaches -/

/-- The state after some events none of which made the build fail. -/
def reached (session : Session ε) (r : BuildRequest) (native : Platform)
    (events : List Event) : State ε where
  started := events.filterMap Event.started?
  joined := events.filterMap Event.finished?
  calls := (events.filterMap Event.started?).filterMap fun i ↦
    (r.calls native)[i]?.map fun options ↦ (r.script, options)
  slots := (verdicts session r native).mapIdx fun i v ↦
    if .finish i ∈ events then v.toOption else none
  failure := none

private theorem reached_nil (session : Session ε) (r : BuildRequest) (native : Platform)
    (numbering : Numbering) :
    reached session r native [] = .initial (tasks numbering r native).length := by
  simp only [reached, State.initial, List.filterMap_nil, List.not_mem_nil, if_false,
    State.mk.injEq, true_and, and_true]
  rw [length_tasks, ← length_verdicts session r native]
  exact List.mapIdx_eq_replicate_iff.mpr fun _ _ ↦ rfl

/-- What the events so far say of the tasks that have started. -/
theorem mem_started_reached {before : List Event} {i : Nat} :
    i ∈ (reached session r native before).started ↔ .start i ∈ before := by
  simp only [reached, List.mem_filterMap]
  constructor
  · rintro ⟨event, hm, he⟩
    cases event with
    | start j => exact Option.some.inj he ▸ hm
    | finish j => cases he
  · exact fun hm ↦ ⟨.start i, hm, rfl⟩

private theorem mem_joined_reached {before : List Event} {i : Nat} :
    i ∈ (reached session r native before).joined ↔ .finish i ∈ before := by
  simp only [reached, List.mem_filterMap]
  constructor
  · rintro ⟨event, hm, he⟩
    cases event with
    | start j => cases he
    | finish j => exact Option.some.inj he ▸ hm
  · exact fun hm ↦ ⟨.finish i, hm, rfl⟩

private theorem step_start {before : List Event} {i : Nat} (hi : i < r.targets.length)
    (hn : .start i ∉ before) :
    step session r.script (tasks numbering r native) (reached session r native before)
        (.start i) = reached session r native (before ++ [.start i]) := by
  have ht : (tasks numbering r native)[i]? = some ⟨numbering.number i, i,
      r.targets[i].getD native, r.solveOptions native r.targets[i]⟩ := by
    rw [tasks, List.getElem?_mapIdx, List.getElem?_eq_getElem hi, Option.map_some]
  have hc : (r.calls native)[i]? = some (r.solveOptions native r.targets[i]) := by
    rw [BuildRequest.calls, List.getElem?_map, List.getElem?_eq_getElem hi, Option.map_some]
  have hs : i ∉ (reached session r native before).started := mt mem_started_reached.mp hn
  unfold step
  rw [if_neg (by simp [reached])]
  simp only [ht, if_neg hs]
  simp [reached, Event.started?, Event.finished?, hc]

/-- Where a task finishes, the build takes in its verdict. -/
theorem step_finish {before : List Event} {i : Nat}
    {v : Except (BuildError ε) PlatformResult}
    (hv : (verdicts session r native)[i]? = some v)
    (hs : .start i ∈ before) (hn : .finish i ∉ before) :
    step session r.script (tasks numbering r native) (reached session r native before)
        (.finish i) =
      let s := reached session r native before
      match v with
      | .ok result => { s with
          joined := s.joined ++ [i], slots := s.slots.set i (some result) }
      | .error e => { s with joined := s.joined ++ [i], failure := some e } := by
  obtain ⟨hi, rfl⟩ := List.getElem?_eq_some_iff.mp hv
  rw [length_verdicts] at hi
  have ht : (tasks numbering r native)[i]? = some ⟨numbering.number i, i,
      r.targets[i].getD native, r.solveOptions native r.targets[i]⟩ := by
    rw [tasks, List.getElem?_mapIdx, List.getElem?_eq_getElem hi, Option.map_some]
  unfold step
  rw [if_neg (by simp [reached])]
  simp only [ht]
  rw [if_pos ⟨mem_started_reached.mpr hs, mt mem_joined_reached.mp hn⟩, State.join,
    receive_join (List.mem_of_getElem? ht)]
  simp only [verdicts, List.getElem_mapIdx]
  cases verdict (r.targets[i].getD native)
    (session.solve i r.script (r.solveOptions native r.targets[i])) <;> rfl

private theorem step_finish_of_ok {before : List Event} {i : Nat} {result : PlatformResult}
    (hv : (verdicts session r native)[i]? = some (.ok result))
    (hs : .start i ∈ before) (hn : .finish i ∉ before) :
    step session r.script (tasks numbering r native) (reached session r native before)
        (.finish i) = reached session r native (before ++ [.finish i]) := by
  rw [step_finish hv hs hn]
  simp only [reached, State.mk.injEq, List.filterMap_append, and_true]
  refine ⟨by simp [Event.started?], by simp [Event.finished?], by simp [Event.started?], ?_⟩
  apply List.ext_getElem?
  intro j
  rw [List.getElem?_set, List.getElem?_mapIdx, List.getElem?_mapIdx]
  by_cases hij : i = j
  · subst hij
    obtain ⟨hi, hv⟩ := List.getElem?_eq_some_iff.mp hv
    simp [hi, hv, Except.toOption]
  · simp [hij, Ne.symm hij]

private theorem failure_step_finish (numbering : Numbering) {before : List Event} {i : Nat}
    {e : BuildError ε}
    (hv : (verdicts session r native)[i]? = some (.error e))
    (hs : .start i ∈ before) (hn : .finish i ∉ before) :
    (step session r.script (tasks numbering r native) (reached session r native before)
        (.finish i)).failure = some e := by
  rw [step_finish hv hs hn]

private theorem foldl_step_of_failure {script : String} {tasks : List Task} {s : State ε}
    (h : s.failure.isSome) (events : List Event) :
    events.foldl (step session script tasks) s = s := by
  induction events with
  | nil => rfl
  | cons event events ih =>
    have hstep : step session script tasks s event = s := by
      unfold step
      rw [if_pos h]
    rw [List.foldl_cons, hstep, ih]

private theorem foldl_step_reached (session : Session ε) (native : Platform) (numbering : Numbering)
    (c : Course r.targets.length) {before after : List Event}
    (h : c.events = before ++ after) :
    let s := after.foldl (step session r.script (tasks numbering r native))
      (reached session r native before)
    match (after.filterMap Event.finished?).findSome? (failure? session r native) with
    | some e => s.failure = some e
    | none => s = reached session r native c.events := by
  induction after generalizing before with
  | nil => simp [h]
  | cons event after ih =>
    have happ : c.events = (before ++ [event]) ++ after := by simp [h]
    have hnew : event ∉ before := by
      have hd := c.nodup_events
      rw [h] at hd
      intro hm
      exact (List.nodup_append.mp hd).2.2 event hm event List.mem_cons_self rfl
    have hmem : event ∈ c.events := by simp [h]
    cases event with
    | start i =>
      rw [List.foldl_cons, step_start (c.lt_of_start_mem hmem) hnew]
      exact ih happ
    | finish i =>
      have hs : .start i ∈ before := c.start_mem_of_finish h
      have hi : i < (verdicts session r native).length := by
        rw [length_verdicts]
        exact c.lt_of_finish_mem hmem
      have hv := List.getElem?_eq_getElem hi
      rw [List.foldl_cons]
      cases hr : (verdicts session r native)[i] with
      | ok result =>
        rw [hr] at hv
        have hf : failure? session r native i = none := by simp only [failure?, hv]
        rw [step_finish_of_ok hv hs hnew,
          List.filterMap_cons_some (rfl : Event.finished? (.finish i) = some i),
          List.findSome?_cons, hf]
        exact ih happ
      | error e =>
        rw [hr] at hv
        have hf : failure? session r native i = some e := by simp only [failure?, hv]
        have he := failure_step_finish numbering hv hs hnew
        rw [foldl_step_of_failure (by rw [he]; rfl),
          List.filterMap_cons_some (rfl : Event.finished? (.finish i) = some i),
          List.findSome?_cons, hf]
        exact he

/-- What a whole course leads to. -/
theorem perform_course (session : Session ε) (native : Platform) (numbering : Numbering)
    (c : Course r.targets.length) :
    match c.order.findSome? (failure? session r native) with
    | some e => (perform session r native numbering c.events).failure = some e
    | none => perform session r native numbering c.events = reached session r native c.events := by
  have h := foldl_step_reached session native numbering c (List.nil_append c.events).symm
  rw [reached_nil session r native numbering] at h
  exact h

end Reached

end ContainerBuild.Build
