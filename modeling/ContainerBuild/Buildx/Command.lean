import ContainerBuild.Build.Schedule

/-!
# The build command

The arguments with which the build engine is called for one platform.
-/

namespace ContainerBuild

/-- The settings of all calls of the engine. -/
structure Buildx where
  program : String := "docker"
  /-- The directory of the build context. -/
  context : String := "."
  /-- The name of a builder instance. -/
  builder : Option String := none
  secrets : List String := []
  ssh : List String := []
  tags : List String := []
  outputs : List String := []
  progress : Option String := none
deriving DecidableEq, Repr, Inhabited

namespace Buildx

/-- An option with its value. -/
def option (name value : String) : List String := [name, value]

/-- An option, if it has a value. -/
def optional (name : String) (value : Option String) : List String :=
  (value.map (option name)).getD []

/-- An option for each value. -/
def repeated (name : String) (values : List String) : List String :=
  values.flatMap (option name)

/-- The entries of a dictionary, with an equals sign between key and value. -/
def pairs (d : Dict String) : List String :=
  d.entries.map fun (key, value) ↦ key ++ "=" ++ value

/-- The name of a platform inside a tag. -/
def tagSuffix (p : Platform) : List Char :=
  p.render.toList.map fun c ↦ if c = '/' then '-' else c

/-- What stands behind the last slash of a tag. -/
def lastPart (tag : List Char) : List Char :=
  (tag.reverse.takeWhile (· ≠ '/')).reverse

/-- A tag for one platform among several: behind the version if the tag has one, and as
the version otherwise. -/
def platformTag (tag : String) (p : Platform) : String :=
  let separator := if ':' ∈ lastPart tag.toList then '-' else ':'
  String.ofList (tag.toList ++ separator :: tagSuffix p)

/-- A tag as the engine gets it. -/
def tagFor (o : SolveOptions) (tag : String) : String :=
  match o.targetPlatform with
  | some p => if o.perPlatform then platformTag tag p else tag
  | none => tag

/-- The arguments of one build; the engine writes what it did to a metadata file. -/
def buildArguments (b : Buildx) (o : SolveOptions) (metadataFile : String) : List String :=
  ["buildx", "build"] ++ optional "--builder" b.builder ++
    ["--file", "-", "--metadata-file", metadataFile] ++
    optional "--progress" b.progress ++
    optional "--platform" (o.targetPlatform.map Platform.render) ++
    repeated "--build-arg" (pairs o.buildArgs) ++
    repeated "--label" (pairs o.labels) ++
    repeated "--cache-from" (o.cacheImports.map CacheImport.spec) ++
    repeated "--secret" b.secrets ++
    repeated "--ssh" b.ssh ++
    repeated "--tag" (b.tags.map (tagFor o)) ++
    repeated "--output" b.outputs ++
    [b.context]

/-- The arguments that ask for the platforms of the engine. -/
def inspectArguments (b : Buildx) : List String := ["buildx", "inspect"] ++ b.builder.toList

end Buildx

end ContainerBuild
