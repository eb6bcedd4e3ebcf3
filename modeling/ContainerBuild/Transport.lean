import ContainerBuild.PackageIndex
import ContainerBuild.Text.Split

/-!
# Transports

How dependencies reach the build: over a secure shell, from a repository, or from an
index that asks for a secret. Each way needs a package of its own.
-/

namespace ContainerBuild

/-- The ways in which dependencies are fetched. -/
structure Transport where
  ssh : Bool
  git : Bool
  secrets : Bool
deriving DecidableEq, Repr, Inhabited

namespace Transport

/-- The ways that dependencies and indices need. -/
def scan (dependencies : List String) (indices : List PackageIndex) : Transport :=
  let ssh := dependencies.any (Text.contains · "git+ssh://")
  { ssh
    git := ssh || dependencies.any (Text.contains · "git+")
    secrets := indices.any (·.usesSecrets) }

/-- The packages that the ways need. -/
def packages (t : Transport) : List String :=
  (if t.ssh then ["openssh-client"] else []) ++ (if t.git then ["git"] else []) ++
    (if t.secrets then ["jq"] else [])

/-- A list of packages with those of the ways behind it, each once. -/
def extend (base : List String) (t : Transport) : List String :=
  (base ++ t.packages).eraseDups

end Transport

end ContainerBuild
