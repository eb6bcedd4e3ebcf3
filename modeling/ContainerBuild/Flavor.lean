import ContainerBuild.Text.Blank

/-!
# Flavors

The family of the base image. It decides the image tag, the package manager and how
a user is created.
-/

namespace ContainerBuild

/-- A base image family. -/
inductive Flavor where
  | debian
  | alpine
deriving DecidableEq, Repr, Inhabited

namespace Flavor

/-- The name of a flavor in a manifest. -/
def name : Flavor → String
  | .debian => "debian"
  | .alpine => "alpine"

/-- What ends the tag of the base image. -/
def imageTag : Flavor → String
  | .debian => "slim"
  | .alpine => "alpine"

/-- The flavor that a trimmed text names; debian when it is blank. The error is the
trimmed text. -/
def parse (text : String) : Except String Flavor :=
  let name := Text.trim text
  if name = "" ∨ name = "debian" then .ok .debian
  else if name = "alpine" then .ok .alpine
  else .error name

end Flavor

end ContainerBuild
