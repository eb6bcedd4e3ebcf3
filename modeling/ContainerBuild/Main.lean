import ContainerBuild.Cli.Run

/-!
# The program

Reads the files that a command may ask for, runs the command and prints what it printed.
Processes cannot be started from here, so every call of the engine ends as if there were
none.
-/

namespace ContainerBuild.Program

/-- What an error of the file system means. -/
def fileError : IO.Error → FileError
  | .inappropriateType _ code _ => if code = 20 then .notDirectory else .isDirectory
  | _ => .notFound

/-- The bytes of the file at a path. -/
def readFile (path : String) : IO (Except FileError (List UInt8)) := do
  try
    let bytes ← IO.FS.readBinFile path
    return .ok bytes.toList
  catch e => return .error (fileError e)

/-- Files by path. -/
abbrev Files := List (String × Except FileError (List UInt8))

/-- The file at a path, when it was read. -/
def Files.read (files : Files) (path : String) : Except FileError (List UInt8) :=
  (files.lookup path).getD (.error .notFound)

/-- Reads the files at some paths. -/
def readFiles (paths : List String) : IO Files :=
  paths.mapM fun path ↦ return (path, ← readFile path)

/-- Where the manifest of a command is. -/
def sourceOf : Cli.Command → Cli.Source
  | .validate source => source
  | .config source _ => source
  | .build b =>
    { b.source with
      filename := (Text.nonBlank? b.source.filename).getD FrontendOptions.defaultFilename }

/-- The lock files that a manifest names. -/
def lockPaths (m : Manifest) : List String :=
  m.targets.entries.filterMap fun (_, target) ↦ target.lockPath?

/-- Reads all files that a command may ask for. -/
def filesFor (c : Cli.Command) : IO Files := do
  let source := sourceOf c
  let bare : FileContext := ⟨source.context, Files.read []⟩
  let files ← readFiles ([source.filename, FileContext.versionFile, FileContext.ignoreFile].map
    bare.pathOf)
  match FileContext.manifest ⟨source.context, files.read⟩ source.filename with
  | .ok m => return files ++ (← readFiles ((lockPaths m).map bare.pathOf))
  | .error _ => return files

/-- The files that the arguments may ask for. -/
def filesForArguments (target : Option String) (args : List String) : IO Files :=
  match Cli.Invocation.parse target args with
  | .ok (.run c) => filesFor c
  | _ => return []

/-- Runs the program and gives its exit code. -/
def run (args : List String) : IO UInt32 := do
  let target ← IO.getEnv "PYIMAGE_TARGET"
  let files ← filesForArguments target args
  let ending := Cli.execute
    { read := files.read
      answer := fun _ ↦ .notFound
      metadataFile := "metadata.json"
      target }
    args
  (← IO.getStdout).putStr ending.printed.stdout
  (← IO.getStderr).putStr ending.printed.stderr
  return ending.code.toUInt32

end ContainerBuild.Program

/-- The entry of the program. -/
def main (args : List String) : IO UInt32 := ContainerBuild.Program.run args
