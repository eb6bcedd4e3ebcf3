import ContainerBuild.Buildx.Command
import ContainerBuild.Files
import ContainerBuild.Json.Reader

/-!
# Answers of the engine

What the calls of the build engine lead to: its own platform, and the result of a build,
which stands in a metadata file.
-/

namespace ContainerBuild

/-- How a call of a program ends. -/
inductive CallEnd where
  /-- The program is not there. -/
  | notFound
  /-- The program has run; `metadata` is what the metadata file holds afterwards. -/
  | exited (code : Nat) (stdout stderr : List UInt8) (metadata : Except FileError (List UInt8))

/-- Why the engine gives no result. -/
inductive EngineError where
  | spawn (program : String)
  | failed (program : String) (code : Nat) (output : String)
  | unreadable (path : String) (e : FileError)
  /-- The metadata are not JSON. -/
  | malformed (path : String)
  | notObject (path : String)
deriving DecidableEq, Repr

/-- The wording of an engine error, apart from one of the JSON syntax. -/
def EngineError.message : EngineError → String
  | .spawn program => "failed to spawn " ++ program ++ ": " ++ FileError.notFound.message
  | .failed program code output =>
    program ++ " exited with exit status: " ++ Text.decimal code ++ ": " ++ output
  | .unreadable path e => "failed to read build metadata " ++ path ++ ": " ++ e.message
  | .malformed path => "failed to read build metadata " ++ path
  | .notObject path =>
    "failed to read build metadata " ++ path ++ ": metadata is not a JSON object"

namespace Buildx

/-- The platforms in one line of the answer, if it lists them. -/
def listedPlatforms (line : String) : List String :=
  match Text.dropLead? "Platforms:" (Text.trim line) with
  | none => []
  | some list => (Text.splitOn ',' list).map fun entry ↦
    String.ofList (Text.dropEndWhile (· = '*') (Text.trim entry).toList)

/-- The first platform that the answer lists. -/
def firstPlatform? [Platform.Machine] (answer : String) : Option Platform := do
  let entry ← ((Text.lines answer).flatMap listedPlatforms).find? (· ≠ "")
  (Platform.parse entry).toOption

/-- The platform of the engine; that of the machine at hand when the engine does not
tell. -/
def platformOf [Platform.Machine] (answer : CallEnd) : Platform :=
  match answer with
  | .exited 0 stdout _ _ => (firstPlatform? (Text.readText stdout)).getD Platform.host
  | _ => Platform.host

/-- The number of lines of an error output that a message keeps. -/
def keptLines : Nat := 20

/-- The last lines of a text. -/
def lastLines (s : String) : String :=
  let lines := Text.lines s
  "\n".intercalate (lines.drop (lines.length - keptLines))

/-- The reference in metadata: the digest of the image, or else the name of the build. -/
def referenceIn (metadata : Json.Value) : String :=
  (["containerimage.digest", "buildx.build.ref"].findSome? fun key ↦
    (metadata.get? key).bind Json.Value.text?).getD ""

/-- The result of a build in its metadata. -/
def outputOf (path : String) (metadata : String) : Except EngineError SolveOutput :=
  match Json.parse metadata with
  | none => .error (.malformed path)
  | some (.object members) =>
    let value := Json.Value.object members
    .ok ⟨(value.get? "containerimage.descriptor").getD .null,
      (value.get? "buildx.build.provenance").getD .null, referenceIn value⟩
  | some _ => .error (.notObject path)

/-- The result of a build call. -/
def resultOf (program metadataFile : String) (answer : CallEnd) : Except EngineError SolveOutput :=
  match answer with
  | .notFound => .error (.spawn program)
  | .exited 0 _ _ (.ok bytes) =>
    match Text.text? bytes with
    | some s => outputOf metadataFile s
    | none => .error (.unreadable metadataFile .invalidText)
  | .exited 0 _ _ (.error e) => .error (.unreadable metadataFile e)
  | .exited code _ stderr _ => .error (.failed program code (lastLines (Text.readText stderr)))

/-- One call of the engine. -/
structure Call where
  /-- The platform, `inspect` for the call that asks for it, and `default` when the engine
  chooses. -/
  subject : String
  arguments : List String
  input : String
deriving DecidableEq, Repr

/-- The call that asks for the platform of the engine. -/
def inspectCall (b : Buildx) : Call := ⟨"inspect", b.inspectArguments, ""⟩

/-- The call that builds a script. -/
def buildCall (b : Buildx) (metadataFile script : String) (o : SolveOptions) : Call :=
  ⟨(o.targetPlatform.map Platform.render).getD "default",
    b.buildArguments o metadataFile, script⟩

/-- The engine behind a command line, given how each call ends. -/
def engine [Platform.Machine] (b : Buildx) (metadataFile : String)
    (answer : Call → CallEnd) : Engine EngineError where
  defaultPlatform := .ok (platformOf (answer b.inspectCall))
  solve script o :=
    match resultOf b.program metadataFile (answer (b.buildCall metadataFile script o)) with
    | .ok output => .solved output
    | .error e => .failed e

end Buildx

end ContainerBuild
