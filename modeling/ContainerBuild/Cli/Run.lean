import ContainerBuild.Buildx.Response
import ContainerBuild.Cli.Command
import ContainerBuild.Config.Json
import ContainerBuild.Manifest.Problems
import ContainerBuild.Script.Compile

/-!
# Running a command

What a command prints, which calls of the engine it makes, and how it ends, given the files
around it and the answers of the engine. What was printed before a failure stays printed.
-/

namespace ContainerBuild.Cli

/-- What a run finds around it. -/
structure Surroundings where
  /-- Reads a file at a path that starts where the program does. -/
  read : String → Except FileError (List UInt8)
  /-- How a call of the engine ends. -/
  answer : Buildx.Call → CallEnd
  /-- Where the engine writes what it did. -/
  metadataFile : String
  /-- The target that the environment names. -/
  target : Option String

/-- Why a command fails. -/
inductive RunError where
  | options (e : OptionsError)
  | load (path : String) (e : LoadError)
  | problems (path : String) (count : Nat)
  | resolve (e : ResolveError)
  | compile (e : CompileError)
  | ignoreFile (root : String) (f : FileFailure)
  | build (e : BuildError EngineError)

/-- The causes behind options that cannot be read. -/
def optionsCauses (e : OptionsError) : List String :=
  match e with
  | .platform inner => [e.message, inner.message]
  | .cacheImports _ => [(OptionsError.cacheImports .malformed).message]
  | .emptyName _ => [e.message]

/-- The causes behind a manifest that cannot be loaded. Of a decoding error only its kind
is told. -/
def loadCauses (e : LoadError) : List String :=
  match e with
  | .unreadable _ inner => [e.message, inner.message]
  | .decode _ => ["TOML parse error"]

/-- The causes behind a configuration that cannot be resolved. -/
def resolveCauses (e : ResolveError) : List String :=
  e.message ::
    match e with
    | .pinnedVersion reason => [reason]
    | .version _ inner => [inner.message]
    | .lockFile _ _ reason => [reason]
    | .invalidIndex _ _ inner => [inner.message]
    | _ => []

/-- The causes behind a configuration that cannot be compiled. -/
def compileCauses (e : CompileError) : List String :=
  e.message ::
    match e with
    | .placeholder _ _ inner => [inner.message]
    | .indexUrl _ _ _ => []

/-- The causes behind a call without a result. -/
def engineCauses (e : EngineError) : List String :=
  e.message ::
    match e with
    | .spawn _ => [FileError.notFound.message]
    | _ => []

/-- The causes behind a build that fails. -/
def buildCauses (e : BuildError EngineError) : List String :=
  e.message EngineError.message ::
    match e with
    | .defaultPlatform inner => engineCauses inner
    | .failed _ inner => engineCauses inner
    | _ => []

/-- What went wrong, from the outermost cause inwards. -/
def RunError.causes : RunError → List String
  | .options e => optionsCauses e
  | .load path e => ("failed to load " ++ path) :: loadCauses e
  | .problems path count => [Text.decimal count ++ " validation error(s) in " ++ path]
  | .resolve e => resolveCauses e
  | .compile e => compileCauses e
  | .ignoreFile root f => ["failed to read ignore file in " ++ root, f.message]
  | .build e => buildCauses e

/-- Whether the message goes on with what a reader of TOML or JSON says. -/
def RunError.isOpen : RunError → Bool
  | .options (.cacheImports _) => true
  | .load _ (.decode _) => true
  | _ => false

/-- The message about a failure. -/
def RunError.message (e : RunError) : String :=
  "error: " ++ ": ".intercalate e.causes ++ if e.isOpen then "" else "\n"

/-- What a run has printed, and the calls that it has made. -/
structure Printed where
  stdout : String := ""
  stderr : String := ""
  calls : List Buildx.Call := []

/-- A part of a run. -/
abbrev Run (α : Type) := ExceptT RunError (StateM Printed) α

/-- Prints a text. -/
def print (text : String) : Run Unit :=
  modify fun p ↦ { p with stdout := p.stdout ++ text }

/-- Prints a line. -/
def printLine (line : String) : Run Unit := print (line ++ "\n")

/-- Prints a line about a fault. -/
def complain (line : String) : Run Unit :=
  modify fun p ↦ { p with stderr := p.stderr ++ line ++ "\n" }

/-- Notes calls of the engine. -/
def note (calls : List Buildx.Call) : Run Unit :=
  modify fun p ↦ { p with calls := p.calls ++ calls }

/-- Gives a result, or fails. -/
def lift {ε α : Type} (wrap : ε → RunError) : Except ε α → Run α
  | .ok a => pure a
  | .error e => throw (wrap e)

/-- The build context of a source. -/
def contextOf (s : Surroundings) (source : Source) : FileContext := ⟨source.context, s.read⟩

/-- Loads a manifest, which has to be free of problems. -/
def loadManifest (s : Surroundings) (source : Source) : Run Manifest := do
  let context := contextOf s source
  let path := context.pathOf source.filename
  let manifest ← lift (.load path) (context.manifest source.filename)
  let problems := manifest.problems
  for problem in problems do
    complain ("  ERROR: " ++ problem.message)
  if problems.isEmpty then return manifest
  else throw (.problems path problems.length)

/-- The targets of a manifest; one without a name when there are none. -/
def targetsOf (m : Manifest) : List (Option String) :=
  if m.targets.keys.isEmpty then [none] else m.targets.keys.map some

/-- Checks that every target of a manifest can be built. -/
def validate (s : Surroundings) (source : Source) : Run Unit := do
  let manifest ← loadManifest s source
  let context := (contextOf s source).toContext
  for target in targetsOf manifest do
    let config ← lift .resolve (Config.resolve manifest target context)
    let _ ← lift .compile (Script.compile config .empty)
    printLine ("  " ++ config.label ++ ": python " ++ config.pythonVersion ++ " (" ++
      config.flavor.name ++ ")")
  printLine ("OK: " ++ manifest.declaration.name ++ " (" ++
    Text.decimal (targetsOf manifest).length ++ " target(s))")

/-- Prints the configuration of a target. -/
def showConfig (s : Surroundings) (source : Source) (target : Option String) : Run Unit := do
  let manifest ← loadManifest s source
  let config ← lift .resolve (Config.resolve manifest target (contextOf s source).toContext)
  printLine config.toJson.pretty

/-- The settings of the engine. -/
def BuildArguments.buildx (b : BuildArguments) : Buildx where
  context := b.source.context
  builder := b.builder
  secrets := b.secrets
  ssh := b.ssh
  tags := b.tags
  outputs := b.outputs
  progress := b.progress

section

variable [Platform.Machine]

/-- Calls the engine and prints what it built. -/
def runEngine (s : Surroundings) (b : BuildArguments) (request : BuildRequest) : Run Unit := do
  let buildx := b.buildx
  let platform := Buildx.platformOf (s.answer buildx.inspectCall)
  let calls := request.calls platform
  note (buildx.inspectCall ::
    calls.map (buildx.buildCall s.metadataFile request.script))
  let engine := buildx.engine s.metadataFile s.answer
  let outcome ← lift .build (Build.run engine request (List.range calls.length))
  for result in outcome.platforms do
    printLine (result.id ++ "  " ++ result.output.reference)

/-- Compiles a target, prints what is asked for, and builds. -/
def build (s : Surroundings) (b : BuildArguments) : Run Unit := do
  let options ← lift .options (FrontendOptions.parse b.frontendOptions)
  let source : Source := { b.source with filename := options.filename }
  let manifest ← loadManifest s source
  let context := contextOf s source
  let config ← lift .resolve (Config.resolve manifest options.target context.toContext)
  if b.printConfig then printLine config.toJson.pretty
  let script ← lift .compile (Script.compile config options.buildArgs)
  if b.printScript then print script.render
  if b.printGraph then printLine script.graph.pretty
  if b.shouldBuild then
    let excludes ← lift (.ignoreFile context.root) context.ignorePatterns
    runEngine s b
      { script := script.render
        buildArgs := options.buildArgs
        labels := options.labels
        excludes
        platforms := options.platforms
        cacheImports := options.cacheImports }

/-- Runs a command. -/
def Command.run (s : Surroundings) : Command → Run Unit
  | .validate source => Cli.validate s source
  | .config source target => showConfig s source target
  | .build b => Cli.build s b

/-- The name and the version of the program. -/
def programVersion : String := "pyimage 0.3.0"

/-- How the program is called. -/
def usage : String :=
  "Usage: pyimage [-v] validate [-f FILE] [-C DIR]\n" ++
    "       pyimage [-v] config [-f FILE] [-C DIR] [-t TARGET]\n" ++
    "       pyimage [-v] build [-f FILE] [-C DIR] [-t TARGET] [OPTION]...\n"

/-- How a run ended: the exit code, what was printed, and the calls. -/
structure Ending where
  code : Nat
  printed : Printed

/-- The ending of a command. -/
def Command.ending (s : Surroundings) (c : Command) : Ending :=
  match (c.run s).run.run {} with
  | (.ok (), printed) => ⟨0, printed⟩
  | (.error e, printed) => ⟨1, { printed with stderr := printed.stderr ++ e.message }⟩

/-- Runs the program with its arguments. -/
def execute (s : Surroundings) (args : List String) : Ending :=
  match Invocation.parse s.target args with
  | .ok (.run c) => c.ending s
  | .ok .help => ⟨0, { stdout := usage }⟩
  | .ok .version => ⟨0, { stdout := programVersion ++ "\n" }⟩
  | .error e => ⟨2, { stderr := "error: " ++ e.message ++ "\n\n" ++ usage }⟩

end

/-- The program is built for a machine of 64-bit x86. -/
instance : Platform.Machine := .x86

end ContainerBuild.Cli
