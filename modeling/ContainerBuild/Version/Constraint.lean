import ContainerBuild.Version.Release

/-!
# Version constraints

A constraint is a list of clauses that a version has to meet, all of them. Clauses
are separated by commas or blanks; an operator may stand apart from its release,
and a lone star asks for nothing. Only the first line of a text counts.
-/

namespace ContainerBuild

/-- How a clause compares a version with its release. -/
inductive Comparison where
  | equal
  | unequal
  | atLeast
  | atMost
  | above
  | below
  | compatible
  | caret
  | tilde
deriving DecidableEq, Repr

namespace Comparison

/-- The comparison that an operator text stands for. -/
def ofSymbol? : List Char → Option Comparison
  | [] | ['='] | ['=', '='] | ['=', '=', '='] => some .equal
  | ['!', '='] => some .unequal
  | ['>', '='] => some .atLeast
  | ['<', '='] => some .atMost
  | ['>'] => some .above
  | ['<'] => some .below
  | ['~', '='] => some .compatible
  | ['^'] => some .caret
  | ['~'] => some .tilde
  | _ => none

/-- The characters that operators are made of. -/
def isSymbolChar (c : Char) : Bool :=
  c = '=' || c = '<' || c = '>' || c = '!' || c = '~' || c = '^'

/-- Whether a wildcard may follow the release of a clause. -/
def allowsWildcard : Comparison → Bool
  | .equal | .unequal => true
  | _ => false

end Comparison

/-- One comparison with a release, which a wildcard may extend. -/
structure Clause where
  comparison : Comparison
  release : Release
  wildcard : Bool
deriving DecidableEq, Repr

namespace Clause

/-- Whether a version meets a clause. -/
def allows (c : Clause) (v : Version) : Bool :=
  let bound := c.release.toVersion
  match c.comparison with
  | .equal => if c.wildcard then c.release.opens v else v = bound
  | .unequal => if c.wildcard then !c.release.opens v else v ≠ bound
  | .atLeast => bound ≤ v
  | .atMost => v ≤ bound
  | .above => bound < v
  | .below => v < bound
  | .compatible => decide (bound ≤ v) && Release.opens c.release.dropLast v
  | .caret => decide (bound ≤ v) && decide (v < c.release.caretUpper.toVersion)
  | .tilde => decide (bound ≤ v) && decide (v < c.release.tildeUpper.toVersion)

/-- The parts of a clause text: operator, digits and dots of the release, wildcard. -/
structure Parts where
  symbol : List Char
  release : List Char
  wildcard : Bool
deriving DecidableEq, Repr

/-- Cuts a trailing `.*` off. -/
def cutWildcard (s : List Char) : List Char × Bool :=
  match s.reverse with
  | '*' :: '.' :: rest => (rest.reverse, true)
  | _ => (s, false)

/-- Whether a text is made of one or more runs of digits, joined by dots. -/
def isDotted (s : List Char) : Bool :=
  (s.splitOn '.').all fun part ↦ !part.isEmpty && part.all Text.isDigit

/-- Takes a token apart: operator signs, blanks, at most one `v`, a dotted release
and perhaps a wildcard. -/
def parts? (token : List Char) : Option Parts :=
  let symbol := token.takeWhile Comparison.isSymbolChar
  let behind := (token.dropWhile Comparison.isSymbolChar).dropWhile Text.isBlank
  let dotted := match behind with
    | 'v' :: rest => rest
    | rest => rest
  let (release, wildcard) := cutWildcard dotted
  if isDotted release then some ⟨symbol, release, wildcard⟩ else none

/-- Reads one token of a constraint. -/
def parse (token : List Char) : Except ClauseError Clause :=
  let text := String.ofList token
  match parts? token with
  | none => .error (.unreadable text)
  | some p =>
    match Comparison.ofSymbol? p.symbol with
    | none => .error (.unreadable text)
    | some comparison =>
      match Release.parse p.release with
      | .error reason => .error (.release text reason)
      | .ok release =>
        if p.wildcard && !comparison.allowsWildcard then .error (.wildcard text)
        else if comparison = .compatible ∧ release.length < 2 then .error (.tooShort text)
        else .ok ⟨comparison, release, p.wildcard⟩

end Clause

/-- The clauses of a constraint, with the line that they were read from. -/
structure Constraint where
  text : String
  clauses : List Clause
deriving DecidableEq, Repr

namespace Constraint

/-- Joins each run of operator words with the word that follows it. -/
def joinWords (pending : List Char) : List (List Char) → List (List Char)
  | [] => if pending.isEmpty then [] else [pending]
  | word :: rest =>
    if word.all Comparison.isSymbolChar then joinWords (pending ++ word) rest
    else (pending ++ word) :: joinWords [] rest

/-- The tokens of a constraint line. -/
def tokens (line : List Char) : List (List Char) :=
  (line.splitOn ',').flatMap fun piece ↦ joinWords [] (Text.words piece)

/-- Reads the clauses in order, up to the first that cannot be read. -/
def clausesOf : List (List Char) → Except ClauseError (List Clause)
  | [] => .ok []
  | token :: rest =>
    if token = ['*'] then clausesOf rest
    else
      match Clause.parse token with
      | .error e => .error e
      | .ok clause => (clausesOf rest).map (clause :: ·)

/-- Reads the first line of a text as a constraint. -/
def parse (text : String) : Except VersionError Constraint :=
  let line := Text.firstLine text
  match clausesOf (tokens line.toList) with
  | .ok clauses => .ok ⟨line, clauses⟩
  | .error reason => .error (.invalidConstraint line reason)

/-- Whether a version meets every clause. -/
def allows (c : Constraint) (v : Version) : Bool := c.clauses.all (·.allows v)

/-- The line as written, or a star when it is empty. -/
def render (c : Constraint) : String := if c.text = "" then "*" else c.text

end Constraint

end ContainerBuild
