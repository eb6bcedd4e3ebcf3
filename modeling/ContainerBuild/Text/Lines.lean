import ContainerBuild.Text.Blank

/-!
# Lines

A line ends at a line feed, and a carriage return just before that line feed
belongs to the ending. A last line without an ending counts when it is not empty.
-/

namespace ContainerBuild.Text

/-- Drops one carriage return from the front of a reversed line. -/
def dropReturn : List Char → List Char
  | '\r' :: line => line
  | line => line

/-- Reads lines; `line` holds, in reverse, what was read of the current one. -/
def linesFrom (line : List Char) : List Char → List (List Char)
  | [] => if line.isEmpty then [] else [line.reverse]
  | c :: rest =>
    if c = '\n' then (dropReturn line).reverse :: linesFrom [] rest
    else linesFrom (c :: line) rest

/-- The lines of a text, without their endings. -/
def lines (s : String) : List String :=
  (linesFrom [] s.toList).map String.ofList

/-- The first line of a text, trimmed; empty when there is none. -/
def firstLine (s : String) : String :=
  match lines s with
  | [] => ""
  | line :: _ => trim line

end ContainerBuild.Text
