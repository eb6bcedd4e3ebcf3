import ContainerBuild.Version.Constraint

/-!
# Choosing an interpreter version

An explicit version is taken as it is when the constraint allows it. Otherwise the
newest known version that the constraint allows is chosen.
-/

namespace ContainerBuild.Version

/-- The known interpreter versions, newest first, as they are written. -/
def preferred : List String := ["3.13", "3.12", "3.11", "3.10", "3.9", "3.8", "3.7", "3.6"]

/-- Whether a written version can be read and is allowed. -/
def isAllowed (constraint : Constraint) (text : String) : Bool :=
  match Version.parse text with
  | .ok v => constraint.allows v
  | .error _ => false

/-- The version text that a constraint and perhaps an explicit version lead to. -/
def choose (constraint : String) (explicit : Option String) : Except VersionError String :=
  match Constraint.parse constraint with
  | .error e => .error e
  | .ok c =>
    let candidate := match explicit with
      | some text => Text.firstLine text
      | none => ""
    if candidate = "" then
      match preferred.find? (isAllowed c) with
      | some text => .ok text
      | none => .error (.unsatisfiable c.render)
    else
      match Version.parse candidate with
      | .error e => .error e
      | .ok v => if c.allows v then .ok candidate else .error (.mismatch candidate c.render)

end ContainerBuild.Version
