import ContainerBuild.Manifest.Basic
import ContainerBuild.Text.Split

/-!
# Lock file paths

A lock file is mounted from the build context, so its path has to lie inside it, and it
stands in a list of options between commas.
-/

namespace ContainerBuild

/-- Why a path cannot be that of a lock file. -/
inductive LockPathFlaw where
  | separators
  | parent
  | absolute
deriving DecidableEq, Repr

/-- The wording of a flaw. -/
def LockPathFlaw.message : LockPathFlaw → String
  | .separators => "must not contain commas, quotes or whitespace"
  | .parent => "must not contain '..'"
  | .absolute => "must be relative to the build context"

namespace LockPath

/-- Whether a character may not stand in the path of a lock file. -/
def isSeparator (c : Char) : Bool := c = ',' || c = '"' || c = '\'' || Text.isBlank c

/-- What is wrong with a path, if anything. -/
def flaw? (path : String) : Option LockPathFlaw :=
  if path.toList.any isSeparator then some .separators
  else if path.toList.head? = some '/' then some .absolute
  else if (path.toList.splitOn '/').contains ['.', '.'] then some .parent
  else none

end LockPath

/-- The path of a target's lock file; a blank one counts as none. -/
def Target.lockPath? (t : Target) : Option String := t.requirements.bind Text.nonBlank?

end ContainerBuild
