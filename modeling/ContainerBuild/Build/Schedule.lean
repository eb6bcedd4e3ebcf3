import ContainerBuild.Build.Basic

/-!
# Building for several platforms

There is one task for each platform. The tasks call the engine and finish in any order, and
the build takes in their ends as they come. The first task that fails decides the whole
build, and the tasks that are left are given up. When all succeed, the results are in the
order of the request, whatever the order in which the tasks finished.
-/

namespace ContainerBuild

/-- How a task ends. -/
inductive TaskEnd (ε : Type) where
  | solved (output : SolveOutput)
  | failed (e : ε)
  | crashed

/-- A build engine with errors of some type. -/
structure Engine (ε : Type) where
  /-- The platform of the engine itself. -/
  defaultPlatform : Except ε Platform
  /-- Builds a script. -/
  solve : (script : String) → SolveOptions → TaskEnd ε

/-- An engine during one build. Its calls are told apart by the tasks that make them, so
two calls with the same options may end in different ways. -/
structure Session (ε : Type) where
  /-- The platform of the engine itself. -/
  defaultPlatform : Except ε Platform
  /-- Builds a script for a task. -/
  solve : (task : Nat) → (script : String) → SolveOptions → TaskEnd ε

/-- The session of an engine that only looks at the script and the options. -/
def Engine.session {ε : Type} (engine : Engine ε) : Session ε :=
  ⟨engine.defaultPlatform, fun _ ↦ engine.solve⟩

/-- What is to be built. -/
structure BuildRequest where
  script : String
  buildArgs : Dict String := .empty
  labels : Dict String := .empty
  excludes : List String := []
  /-- The platforms to build for; none stands for the default of the engine. -/
  platforms : List Platform := []
  cacheImports : List CacheImport := []

/-- What a message calls a task that crashed. -/
inductive TaskName where
  | platform (p : Platform)
  /-- The runtime reports a task that the build does not know. -/
  | unknown
deriving DecidableEq, Repr

/-- The text of a task's name. -/
def TaskName.render : TaskName → String
  | .platform p => p.render
  | .unknown => "unknown"

/-- Why a build fails. -/
inductive BuildError (ε : Type) where
  | defaultPlatform (e : ε)
  | failed (platform : Platform) (e : ε)
  | crashed (task : TaskName)
  /-- A task of the platform never finished. -/
  | noResult (platform : Platform)
deriving DecidableEq, Repr

/-- The wording of a build error, given that of an engine error. -/
def BuildError.message {ε : Type} (inner : ε → String) : BuildError ε → String
  | .defaultPlatform e => "failed to determine the default build platform: " ++ inner e
  | .failed platform e => "failed to build image for " ++ platform.render ++ ": " ++ inner e
  | .crashed task => "build task for " ++ task.render ++ " panicked or was cancelled"
  | .noResult platform =>
    "build task for " ++ platform.render ++
      " panicked or was cancelled: platform build produced no result"

namespace BuildRequest

/-- What is asked of the engine, one entry for each task. -/
def targets (r : BuildRequest) : List (Option Platform) :=
  if r.platforms.isEmpty then [none] else r.platforms.map some

/-- Whether there are several platforms. -/
def isMulti (r : BuildRequest) : Bool := 1 < r.targets.length

/-- The options of the task for a target. -/
def solveOptions (r : BuildRequest) (native : Platform) (target : Option Platform) :
    SolveOptions where
  buildArgs := r.buildArgs
  labels := r.labels
  excludes := r.excludes
  buildPlatforms := [native]
  targetPlatform := target
  perPlatform := r.isMulti
  cacheImports := r.cacheImports

/-- The options of all tasks, in the order of the request. -/
def calls (r : BuildRequest) (native : Platform) : List SolveOptions :=
  r.targets.map (r.solveOptions native)

/-- All results together, under names of their own when there are several platforms. -/
def outcome (r : BuildRequest) (results : List PlatformResult) : BuildOutcome :=
  if r.isMulti then .several results else .single results

end BuildRequest

namespace Build

/-- How the runtime numbers the tasks of a build: no two alike. -/
structure Numbering where
  number : (task : Nat) → Nat
  injective : ∀ i j, number i = number j → i = j

/-- The tasks are counted from zero. -/
def Numbering.counting : Numbering := ⟨id, fun _ _ h ↦ h⟩

/-- A task that was handed to the runtime. -/
structure Task where
  /-- The number by which the runtime knows the task. -/
  number : Nat
  /-- The place of the task in the request. -/
  slot : Nat
  platform : Platform
  options : SolveOptions

/-- The tasks of a request, in its order. -/
def tasks (numbering : Numbering) (r : BuildRequest) (native : Platform) : List Task :=
  r.targets.mapIdx fun i target ↦
    ⟨numbering.number i, i, target.getD native, r.solveOptions native target⟩

/-- What the runtime hands over when a task has ended. Of one that crashed it knows only
the number. -/
inductive Joined (ε : Type) where
  | returned (slot : Nat) (platform : Platform) (result : Except ε SolveOutput)
  | crashed (number : Nat)

variable {ε : Type}

/-- What a task leaves to the build. -/
def Task.join (task : Task) : TaskEnd ε → Joined ε
  | .solved output => .returned task.slot task.platform (.ok output)
  | .failed e => .returned task.slot task.platform (.error e)
  | .crashed => .crashed task.number

/-- The name of the task with a number. -/
def taskName (tasks : List Task) (number : Nat) : TaskName :=
  match tasks.find? (·.number = number) with
  | some task => .platform task.platform
  | none => .unknown

/-- Puts a result into its slot, or fails. -/
def receive (tasks : List Task) (slots : List (Option PlatformResult)) :
    Joined ε → Except (BuildError ε) (List (Option PlatformResult))
  | .returned slot platform (.ok output) => .ok (slots.set slot (some ⟨platform, output⟩))
  | .returned _ platform (.error e) => .error (.failed platform e)
  | .crashed number => .error (.crashed (taskName tasks number))

/-- What happens during a build: a task calls the engine, or a task finishes. -/
inductive Event where
  | start (task : Nat)
  | finish (task : Nat)
deriving DecidableEq, Repr

/-- How far a build has come. -/
structure State (ε : Type) where
  /-- The tasks that have called the engine. -/
  started : List Nat := []
  /-- The tasks whose ends were taken in. -/
  joined : List Nat := []
  /-- The scripts and options that the engine was given, in the order of the calls. -/
  calls : List (String × SolveOptions) := []
  slots : List (Option PlatformResult)
  /-- The failure that ended the build. -/
  failure : Option (BuildError ε) := none

namespace State

/-- A build none of whose tasks has started. -/
def initial (count : Nat) : State ε where
  slots := List.replicate count none

/-- Takes in the end of a task. -/
def join (s : State ε) (tasks : List Task) (i : Nat) (joined : Joined ε) : State ε :=
  match receive tasks s.slots joined with
  | .ok slots => { s with joined := s.joined ++ [i], slots }
  | .error e => { s with joined := s.joined ++ [i], failure := some e }

end State

/-- What an event makes of a build. After a failure nothing happens any more, and an event
that cannot happen changes nothing. -/
def step (session : Session ε) (script : String) (tasks : List Task) (s : State ε)
    (event : Event) : State ε :=
  if s.failure.isSome then s
  else
    match event with
    | .start i =>
      match tasks[i]? with
      | none => s
      | some task =>
        if i ∈ s.started then s
        else { s with started := s.started ++ [i], calls := s.calls ++ [(script, task.options)] }
    | .finish i =>
      match tasks[i]? with
      | none => s
      | some task =>
        if i ∈ s.started ∧ i ∉ s.joined then
          s.join tasks i (task.join (session.solve i script task.options))
        else s

/-- What a list of events makes of the tasks of a request. -/
def perform (session : Session ε) (r : BuildRequest) (native : Platform)
    (numbering : Numbering) (events : List Event) : State ε :=
  let tasks := tasks numbering r native
  events.foldl (step session r.script tasks) (.initial tasks.length)

/-- The results in all slots, or the platform of the first empty one. -/
def results (tasks : List Task) (slots : List (Option PlatformResult)) :
    Except (BuildError ε) (List PlatformResult) :=
  match (tasks.zip slots).find? (·.2.isNone) with
  | some (task, _) => .error (.noResult task.platform)
  | none => .ok (slots.filterMap id)

/-- What a build gives back when it has come to a state. -/
def State.result (s : State ε) (r : BuildRequest) (tasks : List Task) :
    Except (BuildError ε) BuildOutcome :=
  match s.failure with
  | some e => .error e
  | none => (results tasks s.slots).map r.outcome

/-- Builds a request while the given events happen. -/
def execute (session : Session ε) (r : BuildRequest) (events : List Event)
    (numbering : Numbering := .counting) : Except (BuildError ε) BuildOutcome :=
  match session.defaultPlatform with
  | .error e => .error (.defaultPlatform e)
  | .ok native =>
    (perform session r native numbering events).result r (tasks numbering r native)

/-- The events of tasks that start together and finish in the given order. -/
def eventsOf (order : List Nat) : List Event := order.map .start ++ order.map .finish

/-- Runs a request whose tasks finish in the given order. -/
def run (engine : Engine ε) (r : BuildRequest) (order : List Nat) :
    Except (BuildError ε) BuildOutcome :=
  execute engine.session r (eventsOf order)

/-- The order in which tasks with the given durations finish; of equal ones the first
comes first. -/
def orderByDuration (durations : List Nat) : List Nat :=
  ((durations.zipIdx.mergeSort fun a b ↦ a.1 ≤ b.1).map (·.2))

end Build

end ContainerBuild
