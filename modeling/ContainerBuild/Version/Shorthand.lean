import ContainerBuild.Version.Constraint

/-!
# Shorthand constraints

Poetry writes ranges with a caret or a tilde and exact versions bare. Here such a
constraint becomes a list of clauses without shorthand; what cannot be read stays
as it is written.
-/

namespace ContainerBuild.Version.Shorthand

/-- The range from a release up to a bound, or the piece itself if no release is
written in it. -/
def range (upper : Release → Release) (piece written : List Char) : List Char :=
  match Release.parse (Text.trimChars written) with
  | .ok release =>
    ">=".toList ++ release.render.toList ++ ",<".toList ++ (upper release).render.toList
  | .error _ => piece

/-- Expands one piece between commas. -/
def expandPiece : List Char → List Char
  | '^' :: rest => range Release.caretUpper ('^' :: rest) rest
  | '~' :: '=' :: rest => '~' :: '=' :: rest
  | '~' :: rest => range Release.tildeUpper ('~' :: rest) rest
  | c :: rest => if Text.isDigit c then '=' :: '=' :: c :: rest else c :: rest
  | [] => []

/-- The pieces that ask for something: neither blank nor a lone star. -/
def pieces (s : List Char) : List (List Char) :=
  ((s.splitOn ',').map Text.trimChars).filter fun piece ↦ piece ≠ [] && piece ≠ ['*']

/-- The constraint without shorthand; nothing is left of one that asks for nothing. -/
def expand (constraint : String) : String :=
  String.ofList ([','].intercalate ((pieces constraint.toList).map expandPiece))

end ContainerBuild.Version.Shorthand
