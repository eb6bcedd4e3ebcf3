import ContainerBuild.Cli.Arguments
import ContainerBuild.FrontendOptions

/-!
# Commands

The three commands of the program: check a manifest, show a configuration, and build.
-/

namespace ContainerBuild.Cli

/-- Where a manifest is. -/
structure Source where
  filename : String
  /-- The directory of the build context. -/
  context : String
deriving DecidableEq, Repr, Inhabited

/-- The arguments of a build. -/
structure BuildArguments where
  source : Source
  target : Option String := none
  printScript : Bool := false
  printGraph : Bool := false
  printConfig : Bool := false
  /-- Whether to build at all, when it is given. -/
  build : Option Bool := none
  platform : Option String := none
  buildArgs : List (String × String) := []
  labels : List (String × String) := []
  cacheFrom : List String := []
  cacheImports : Option String := none
  secrets : List String := []
  ssh : List String := []
  tags : List String := []
  outputs : List String := []
  builder : Option String := none
  progress : Option String := none
deriving DecidableEq, Repr, Inhabited

/-- A command with its arguments. -/
inductive Command where
  | validate (source : Source)
  | config (source : Source) (target : Option String)
  | build (b : BuildArguments)
deriving DecidableEq, Repr

/-- What the arguments of the program ask for. -/
inductive Invocation where
  | run (c : Command)
  | help
  | version
deriving DecidableEq, Repr

/-- The options of every command. -/
def commonOptions : List OptionSpec :=
  [⟨"help", some 'h', .help, .anyText⟩, ⟨"verbose", some 'v', .flag, .anyText⟩]

/-- The options that may stand before a command. -/
def leadingOptions : List OptionSpec :=
  ⟨"version", some 'V', .version, .anyText⟩ :: commonOptions

/-- The options that say where a manifest is. -/
def sourceOptions : List OptionSpec :=
  [⟨"filename", some 'f', .single, .anyText⟩, ⟨"context", some 'C', .single, .path⟩]

/-- The option that selects a target. -/
def targetOption : OptionSpec := ⟨"target", some 't', .single, .anyText⟩

/-- The options that only a build has. -/
def buildOptions : List OptionSpec :=
  [⟨"print-script", none, .flag, .anyText⟩,
   ⟨"print-graph", none, .flag, .anyText⟩,
   ⟨"print-config", none, .flag, .anyText⟩,
   ⟨"build", none, .single, .boolean⟩,
   ⟨"platform", none, .single, .anyText⟩,
   ⟨"build-arg", none, .repeated, .pair⟩,
   ⟨"label", none, .repeated, .pair⟩,
   ⟨"cache-from", none, .repeated, .anyText⟩,
   ⟨"cache-imports", none, .single, .anyText⟩,
   ⟨"secret", none, .repeated, .anyText⟩,
   ⟨"ssh", none, .repeated, .anyText⟩,
   ⟨"tag", none, .repeated, .anyText⟩,
   ⟨"output", none, .repeated, .anyText⟩,
   ⟨"builder", none, .single, .anyText⟩,
   ⟨"progress", none, .single, .anyText⟩]

namespace Given

/-- All values of an option. -/
def values (given : Given) (name : String) : List String :=
  (given.filter fun p ↦ p.1 = name).map Prod.snd

/-- Whether an option is given. -/
def has (given : Given) (name : String) : Bool := (given.lookup name).isSome

/-- The pairs that an option gives. -/
def pairs (given : Given) (name : String) : List (String × String) :=
  (values given name).filterMap keyValue?

/-- Where the manifest is: by default the usual file in the current directory. -/
def source (given : Given) : Source where
  filename := (given.lookup "filename").getD FrontendOptions.defaultFilename
  context := (given.lookup "context").getD "."

/-- The target, which the environment may give when no option does. -/
def target (given : Given) (environment : Option String) : Option String :=
  (given.lookup "target").or environment

/-- The arguments of a build. -/
def buildArguments (given : Given) (environment : Option String) : BuildArguments where
  source := source given
  target := target given environment
  printScript := has given "print-script"
  printGraph := has given "print-graph"
  printConfig := has given "print-config"
  build := (given.lookup "build").bind boolean?
  platform := given.lookup "platform"
  buildArgs := pairs given "build-arg"
  labels := pairs given "label"
  cacheFrom := values given "cache-from"
  cacheImports := given.lookup "cache-imports"
  secrets := values given "secret"
  ssh := values given "ssh"
  tags := values given "tag"
  outputs := values given "output"
  builder := given.lookup "builder"
  progress := given.lookup "progress"

end Given

/-- Reads all arguments of a command as options. -/
def readAll (specs : List OptionSpec) (args : List String) : Except Stop Given :=
  match readOptions specs [] none args with
  | .error stop => .error stop
  | .ok (given, []) => .ok given
  | .ok (_, arg :: _) => .error (.usage (.unexpectedArgument arg))

/-- The names of the commands. -/
def commandNames : List String := ["validate", "config", "build"]

/-- Reads the arguments of the help command: at most the name of one command. -/
def readHelp : List String → Stop
  | [] => .help
  | [name] => if name ∈ "help" :: commandNames then .help else .usage (.unknownCommand name)
  | name :: next :: _ =>
    .usage (.unknownCommand (if name ∈ "help" :: commandNames then next else name))

/-- Reads a command from its name and its arguments. -/
def readCommand (environment : Option String) (name : String) (args : List String) :
    Except Stop Command :=
  if name = "validate" then
    (readAll (commonOptions ++ sourceOptions) args).map fun given ↦ .validate given.source
  else if name = "config" then
    (readAll (commonOptions ++ sourceOptions ++ [targetOption]) args).map fun given ↦
      .config given.source (given.target environment)
  else if name = "build" then
    (readAll (commonOptions ++ sourceOptions ++ [targetOption] ++ buildOptions) args).map
      fun given ↦ .build (given.buildArguments environment)
  else if name = "help" then .error (readHelp args)
  else .error (.usage (.unknownCommand name))

/-- Reads options and a command behind them. -/
def readInvocation (environment : Option String) (args : List String) : Except Stop Command :=
  match readOptions leadingOptions [] none args with
  | .error stop => .error stop
  | .ok (_, []) => .error (.usage .missingCommand)
  | .ok (_, name :: rest) => readCommand environment name rest

/-- What the arguments of the program ask for; the environment may name a target. -/
def Invocation.parse (environment : Option String) (args : List String) :
    Except UsageError Invocation :=
  match readInvocation environment args with
  | .ok c => .ok (.run c)
  | .error .help => .ok .help
  | .error .version => .ok .version
  | .error (.usage e) => .error e

namespace BuildArguments

/-- The map of options that says the same as the arguments. -/
def frontendOptions (b : BuildArguments) : Dict String :=
  .ofList ([("filename", b.source.filename)] ++
    (b.target.map (("target", ·))).toList ++
    (b.platform.map (("platform", ·))).toList ++
    (if b.cacheFrom.isEmpty then [] else [("cache-from", ",".intercalate b.cacheFrom)]) ++
    (b.cacheImports.map (("cache-imports", ·))).toList ++
    (b.buildArgs.map fun (key, value) ↦ ("build-arg:" ++ key, value)) ++
    (b.labels.map fun (key, value) ↦ ("label:" ++ key, value)))

/-- Whether the engine is called: by default only when nothing is printed. -/
def shouldBuild (b : BuildArguments) : Bool :=
  b.build.getD (!(b.printScript || b.printGraph || b.printConfig))

end BuildArguments

end ContainerBuild.Cli
