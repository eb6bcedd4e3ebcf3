import ContainerBuild.CacheImport
import ContainerBuild.Platform

/-!
# Frontend options

A build engine hands over a flat map of options. Build arguments and labels stand in it
under keys of their own kind, and the target may also be given as a build argument.
-/

namespace ContainerBuild

/-- The options of a build. -/
structure FrontendOptions where
  /-- The path of the manifest inside the context. -/
  filename : String
  target : Option String
  /-- The platforms to build for; none stands for the default of the engine. -/
  platforms : List Platform
  buildArgs : Dict String
  labels : Dict String
  cacheImports : List CacheImport
deriving DecidableEq

/-- What is wrong with options. -/
inductive OptionsError where
  | platform (e : InvalidPlatform)
  | cacheImports (e : CacheImportError)
  | emptyName (key : String)
deriving DecidableEq, Repr

/-- The wording of an error, apart from one of the JSON syntax. -/
def OptionsError.message : OptionsError → String
  | .platform e => "failed to parse target platforms: " ++ e.message
  | .cacheImports (.shape e) => "failed to parse cache import options: " ++ e.message
  | .cacheImports .malformed => "failed to parse cache import options"
  | .emptyName key => "option '" ++ key ++ "' has an empty name"

namespace FrontendOptions

/-- The manifest that is read when no other is named. -/
def defaultFilename : String := "pyproject.toml"

/-- The build argument that names a target, in any letter case. -/
def targetArgument : String := "PYIMAGE_TARGET"

/-- The entries of a map whose keys open with a mark, without it. -/
def marked (mark : String) :
    List (String × String) → Except OptionsError (List (String × String))
  | [] => .ok []
  | (key, value) :: rest =>
    match Text.dropLead? mark key with
    | none => marked mark rest
    | some name =>
      if name = "" then .error (.emptyName key)
      else (marked mark rest).map ((name, value) :: ·)

/-- The entries of a kind in a map of options. -/
def ofKind (mark : String) (opts : Dict String) : Except OptionsError (Dict String) :=
  (marked mark opts.entries).map Dict.ofList

/-- Whether two texts are equal but for the case of ASCII letters. -/
def equalsIgnoringCase (a b : String) : Bool :=
  a.toList.map Char.toLower = b.toList.map Char.toLower

/-- The value of the first entry whose key is a given one in any letter case. -/
def valueIgnoringCase? (name : String) : List (String × String) → Option String
  | [] => none
  | (key, value) :: rest =>
    if equalsIgnoringCase key name then some value else valueIgnoringCase? name rest

/-- The target that options name: their own entry counts before any build argument, even
when it is blank. -/
def targetOf (opts buildArgs : Dict String) : Option String :=
  let given := match opts.get? "target" with
    | some target => some target
    | none => valueIgnoringCase? targetArgument buildArgs.entries
  given.bind Text.nonBlank?

/-- Reads a map of options. -/
def parse [Platform.Machine] (opts : Dict String) : Except OptionsError FrontendOptions := do
  let buildArgs ← ofKind "build-arg:" opts
  let labels ← ofKind "label:" opts
  let platforms ← match Platform.parseList ((opts.get? "platform").getD "") with
    | .ok platforms => .ok platforms
    | .error e => .error (.platform e)
  let cacheImports ←
    match CacheImport.parse (opts.get? "cache-imports") (opts.get? "cache-from") with
    | .ok imports => .ok imports
    | .error e => .error (.cacheImports e)
  return {
    filename := ((opts.get? "filename").bind Text.nonBlank?).getD defaultFilename
    target := targetOf opts buildArgs
    platforms
    buildArgs
    labels
    cacheImports }

end FrontendOptions

end ContainerBuild
