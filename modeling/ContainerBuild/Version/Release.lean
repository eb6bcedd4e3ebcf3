import ContainerBuild.Text.Lines
import ContainerBuild.Text.Split
import ContainerBuild.Version.Basic
import ContainerBuild.Version.Error

/-!
# Release numbers

A release is what is written before any wildcard: one to three numbers joined by
dots. It stands for the version that fills it up with zeros, and it bounds the
ranges of the shorthand operators.
-/

namespace ContainerBuild

/-- The numbers of a release, in the order in which they are written. -/
abbrev Release := List Nat

namespace Release

/-- The largest number that a component can hold. -/
def componentLimit : Nat := Nat.pow 2 64 - 1

/-- Reads one component: digits, after a plus sign if there is one. -/
def component? (s : List Char) : Option Nat := do
  let digits := match s with
    | '+' :: rest => rest
    | s => s
  let n ← Text.readNat? digits
  if n ≤ componentLimit then some n else none

/-- Reads the components from left to right, up to the first that is no number. -/
def components : List (List Char) → Except ReleaseError Release
  | [] => .ok []
  | part :: rest =>
    match component? part with
    | none => .error (.notNumber (String.ofList part))
    | some n => (components rest).map (n :: ·)

/-- Reads one to three numbers joined by dots. -/
def parse (s : List Char) : Except ReleaseError Release :=
  if s.isEmpty then .error .empty
  else
    match components (s.splitOn '.') with
    | .error e => .error e
    | .ok release => if 3 < release.length then .error .tooLong else .ok release

/-- The version that a release stands for; missing numbers are zero. -/
def toVersion (r : Release) : Version :=
  ⟨r.getD 0 0, r.getD 1 0, r.getD 2 0⟩

/-- Whether the numbers of a release open a version. -/
def opens (r : Release) (v : Version) : Bool :=
  (v.toList.zip r).all fun (a, b) ↦ a == b

/-- The place of the number that a caret range raises: the first that is not zero,
or the last one. -/
def caretIndex (r : Release) : Nat :=
  (r.findIdx? (· ≠ 0)).getD (r.length - 1)

/-- The number after another. A component has no room for more than the largest number, which is
followed by zero. -/
def successor (n : Nat) : Nat := (n + 1) % (componentLimit + 1)

/-- The end of a caret range, which no longer belongs to it. -/
def caretUpper (r : Release) : Release :=
  let i := caretIndex r
  let upper := (r.take (i + 1)).modify i successor
  if upper.length < 2 then upper ++ [0] else upper

/-- The end of a tilde range: the second number is raised, or the only one. -/
def tildeUpper : Release → Release
  | [] => [0, 1]
  | [major] => [successor major, 0]
  | major :: minor :: _ => [major, successor minor]

/-- The numbers, joined by dots. -/
def render (r : Release) : String := ".".intercalate (r.map Text.decimal)

end Release

/-- Reads an interpreter version from the first line of a text; one `v` may lead. -/
def Version.parse (text : String) : Except VersionError Version :=
  let line := Text.firstLine text
  let digits := match line.toList with
    | 'v' :: rest => rest
    | chars => chars
  match Release.parse digits with
  | .ok release => .ok release.toVersion
  | .error reason => .error (.invalidVersion line reason)

end ContainerBuild
