import ContainerBuild.Flavor
import ContainerBuild.Manifest.Declaration
import ContainerBuild.Transport

/-!
# Build configurations

All that one build needs to know: the project's declaration and a target's overrides,
put together.
-/

namespace ContainerBuild

/-- The configuration of one build. -/
structure Config where
  name : String := ""
  /-- The selected target; there is none when the manifest has no targets. -/
  target : Option String := none
  pythonVersion : String := ""
  flavor : Flavor := .debian
  authors : List Author := []
  /-- Each dependency once; the lines of the lock file when there is one. -/
  dependencies : List String := []
  /-- The path of the lock file. -/
  requirements : Option String := none
  extras : List String := []
  buildDeps : List String := []
  systemDeps : List String := []
  env : Dict String := .empty
  labels : Dict String := .empty
  indices : List PackageIndex := []
  entrypoint : List String := []
  command : List String := []
  copyFiles : List FileSpec := []
  addFiles : List FileSpec := []
  copyFilesBeforeBuild : List FileSpec := []
  addFilesBeforeBuild : List FileSpec := []
  transport : Transport := ⟨false, false, false⟩
deriving DecidableEq, Inhabited

/-- How messages call the target of a manifest without targets. -/
def implicitTarget : String := "default"

/-- How messages call the target. -/
def Config.label (c : Config) : String := c.target.getD implicitTarget

end ContainerBuild
