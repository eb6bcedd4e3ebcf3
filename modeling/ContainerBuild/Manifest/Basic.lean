import ContainerBuild.Author
import ContainerBuild.Dict
import ContainerBuild.PackageIndex

/-!
# Manifests

What a project manifest says: the project itself, its build targets, and perhaps a
project in the format of Poetry. Where order matters, a map is a list of pairs in
document order, and each key stands once.
-/

namespace ContainerBuild

/-- A file to copy or to fetch. -/
structure FileSpec where
  src : String
  dst : String
  /-- The digest that a fetched file has to have. -/
  checksum : Option String
deriving DecidableEq, Repr, Inhabited

/-- What a named build target overrides. -/
structure Target where
  flavor : Option String := none
  pythonVersion : Option String := none
  /-- The path of a lock file inside the build context. -/
  requirements : Option String := none
  /-- Groups of optional dependencies to install. -/
  extras : List String := []
  env : Dict String := .empty
  labels : Dict String := .empty
  /-- System packages that only the build needs. -/
  buildDeps : List String := []
  /-- System packages of the final image. -/
  systemDeps : List String := []
  indices : List PackageIndex := []
  entrypoint : List String := []
  command : List String := []
  copyFiles : List FileSpec := []
  addFiles : List FileSpec := []
  copyFilesBeforeBuild : List FileSpec := []
  addFilesBeforeBuild : List FileSpec := []
deriving DecidableEq, Inhabited

/-- The project metadata of a manifest. -/
structure Project where
  name : String := ""
  authors : List Author := []
  dependencies : List String := []
  /-- The groups of optional dependencies, in document order. -/
  optionalDependencies : List (String × List String) := []
  requiresPython : Option String := none
deriving DecidableEq, Repr, Inhabited

/-- A dependency in the format of Poetry. -/
inductive PoetryDependency where
  | bare (constraint : String)
  | detailed (version git rev : Option String) (extras : List String)
deriving DecidableEq, Repr

/-- The version constraint of a dependency, if it has one. -/
def PoetryDependency.constraint? : PoetryDependency → Option String
  | .bare constraint => some constraint
  | .detailed version _ _ _ => version

/-- A project in the format of Poetry. -/
structure PoetryProject where
  name : String := ""
  /-- Authors as they are written. -/
  authors : List String := []
  /-- The dependencies by name, in document order; `python` gives the interpreter. -/
  dependencies : List (String × PoetryDependency) := []
deriving DecidableEq, Repr, Inhabited

/-- A decoded manifest. -/
structure Manifest where
  project : Project := {}
  /-- The build targets by name, in ascending order. -/
  targets : Dict Target := .empty
  poetry : Option PoetryProject := none
deriving DecidableEq, Inhabited

end ContainerBuild
