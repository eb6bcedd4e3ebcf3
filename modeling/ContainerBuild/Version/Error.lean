/-!
# What can be wrong with versions and constraints

Each failure is a cause; its wording is in one function per type.
-/

namespace ContainerBuild

/-- Why a text is no release. -/
inductive ReleaseError where
  | empty
  | notNumber (component : String)
  | tooLong
deriving DecidableEq, Repr

/-- The wording of a release error. -/
def ReleaseError.message : ReleaseError → String
  | .empty => "empty version"
  | .notNumber component => "component '" ++ component ++ "' is not a number"
  | .tooLong => "at most three components are supported"

/-- Why a token of a constraint is no clause. -/
inductive ClauseError where
  | unreadable (token : String)
  | release (token : String) (reason : ReleaseError)
  | wildcard (token : String)
  | tooShort (token : String)
deriving DecidableEq, Repr

/-- The wording of a clause error. -/
def ClauseError.message : ClauseError → String
  | .unreadable token => "cannot parse clause '" ++ token ++ "'"
  | .release token reason => "'" ++ token ++ "': " ++ reason.message
  | .wildcard token => "wildcard not allowed in '" ++ token ++ "'"
  | .tooShort token => "'" ++ token ++ "' needs at least two components"

/-- Why no interpreter version can be chosen. -/
inductive VersionError where
  | invalidVersion (version : String) (reason : ReleaseError)
  | invalidConstraint (constraint : String) (reason : ClauseError)
  | mismatch (version constraint : String)
  | unsatisfiable (constraint : String)
deriving DecidableEq, Repr

/-- The wording of a version error. -/
def VersionError.message : VersionError → String
  | .invalidVersion version reason =>
    "version '" ++ version ++ "' is not valid: " ++ reason.message
  | .invalidConstraint constraint reason =>
    "constraint '" ++ constraint ++ "' is not valid: " ++ reason.message
  | .mismatch version constraint =>
    "version " ++ version ++ " does not satisfy the constraint " ++ constraint
  | .unsatisfiable constraint =>
    "no known interpreter version satisfies the constraint " ++ constraint

end ContainerBuild
