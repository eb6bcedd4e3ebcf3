import ContainerBuild.Text.CodePoints
import ContainerBuild.Toml.Basic

/-!
# Blanks, comments, strings and keys of TOML

Strings come in four forms: basic strings know escapes, literal ones do not, and both
may run over several lines between tripled quotes.
-/

namespace ContainerBuild.Toml

/-- A blank inside a line. -/
def isBlank (c : Char) : Bool := c = ' ' || c = '\t'

/-- Drops the blanks at the front. -/
def dropBlanks (s : List Char) : List Char := s.dropWhile isBlank

/-- Whether a character may stand in a comment or a string: no control but the tab. -/
def isVisible (c : Char) : Bool := c = '\t' || (0x20 ≤ c.toNat && c.toNat ≠ 0x7F)

/-- Reads the end of a line. -/
def newline? : List Char → Option (List Char)
  | '\n' :: rest => some rest
  | '\r' :: '\n' :: rest => some rest
  | _ => none

/-- Drops a comment, if one stands at the front. -/
def dropComment : List Char → List Char
  | '#' :: rest => rest.dropWhile isVisible
  | s => s

/-- Reads the rest of a line behind its content: blanks, perhaps a comment, and the end
of the line or of the text. -/
def lineEnd? (s : List Char) : Option (List Char) :=
  match dropComment (dropBlanks s) with
  | [] => some []
  | rest => newline? rest

/-- Drops blanks, comments and line ends; `inComment` holds inside a comment. Nothing is
dropped from a character on that may not stand there. -/
def dropFiller (inComment : Bool) : List Char → List Char
  | [] => []
  | '\n' :: rest => dropFiller false rest
  | '\r' :: '\n' :: rest => dropFiller false rest
  | c :: rest =>
    if inComment then (if isVisible c then dropFiller true rest else c :: rest)
    else if isBlank c then dropFiller false rest
    else if c = '#' then dropFiller true rest
    else c :: rest

/-- The number that hexadecimal digits denote, when all are. -/
def hexValue? : List Char → Option Nat
  | [] => some 0
  | s => s.foldl (fun n c ↦ do pure (16 * (← n) + (← Text.hexValue? c))) (some 0)

/-- The character with a number in hexadecimal digits. -/
def charOfHex? (digits : List Char) : Option Char := do
  let n ← hexValue? digits
  if n.isValidChar then some (Char.ofNat n) else none

/-- The character that a letter stands for behind a backslash. -/
def escapeValue? (c : Char) : Option Char :=
  if c = '"' || c = '\\' then some c
  else if c = 'b' then some '\x08'
  else if c = 't' then some '\t'
  else if c = 'n' then some '\n'
  else if c = 'f' then some '\x0c'
  else if c = 'r' then some '\r'
  else none

/-- Reads an escape behind its backslash. -/
def escape? : Reader Char
  | 'u' :: a :: b :: c :: d :: rest => do pure (← charOfHex? [a, b, c, d], rest)
  | 'U' :: a :: b :: c :: d :: e :: f :: g :: h :: rest => do
    pure (← charOfHex? [a, b, c, d, e, f, g, h], rest)
  | c :: rest => do pure (← escapeValue? c, rest)
  | [] => none

/-- What follows an escape is shorter than the escape. -/
theorem length_lt_of_escape {s rest : List Char} {c : Char} (h : escape? s = some (c, rest)) :
    rest.length < s.length := by
  unfold escape? at h
  split at h <;> simp [Option.bind_eq_bind, Option.bind_eq_some_iff] at h
  all_goals obtain ⟨_, _, _, rfl⟩ := h; simp <;> omega

/-- Drops blanks and line ends. -/
def dropSpace : List Char → List Char
  | '\n' :: rest => dropSpace rest
  | '\r' :: '\n' :: rest => dropSpace rest
  | c :: rest => if isBlank c then dropSpace rest else c :: rest
  | [] => []

/-- Dropping blanks and line ends makes no text longer. -/
theorem length_dropSpace_le (s : List Char) : (dropSpace s).length ≤ s.length := by
  fun_induction dropSpace s <;> simp_all <;> omega

/-- Reads a basic string behind its opening quote; `acc` holds what was read, in reverse. -/
def basicBody (acc : List Char) (s : List Char) : Option (String × List Char) :=
  match s with
  | [] => none
  | '"' :: rest => some (String.ofList acc.reverse, rest)
  | '\\' :: rest =>
    match h : escape? rest with
    | none => none
    | some (c, behind) =>
      have := length_lt_of_escape h
      basicBody (c :: acc) behind
  | c :: rest => if isVisible c then basicBody (c :: acc) rest else none
termination_by s.length

/-- Reads a literal string behind its opening quote. -/
def literalBody (acc : List Char) : Reader String
  | [] => none
  | '\'' :: rest => some (String.ofList acc.reverse, rest)
  | c :: rest => if isVisible c then literalBody (c :: acc) rest else none

/-- Reads the run of quotes that ends a string over several lines: three close it, and
one or two before them belong to it. -/
def closing? (quote : Char) (acc s : List Char) : Option (String × List Char) :=
  let count := (s.takeWhile (· = quote)).length
  if 3 ≤ count && count ≤ 5 then
    some (String.ofList (List.replicate (count - 3) quote ++ acc).reverse, s.drop count)
  else none

/-- What stands behind a backslash that ends a line, past all blanks and line ends. -/
def continued? (s : List Char) : Option (List Char) :=
  (newline? (dropBlanks s)).map dropSpace

/-- What stands behind a line end is shorter. -/
theorem length_lt_of_newline {s rest : List Char} (h : newline? s = some rest) :
    rest.length < s.length := by
  unfold newline? at h
  split at h <;> simp at h <;> subst h <;> simp only [List.length_cons] <;> omega

/-- What stands behind a continued line is shorter. -/
theorem length_lt_of_continued {s rest : List Char} (h : continued? s = some rest) :
    rest.length < s.length := by
  obtain ⟨t, ht, rfl⟩ := Option.map_eq_some_iff.1 h
  have h1 := length_lt_of_newline ht
  have h2 := length_dropSpace_le t
  have h3 : (dropBlanks s).length ≤ s.length :=
    (List.dropWhile_suffix (l := s) isBlank).length_le
  omega

/-- Reads a basic string over several lines, behind its opening quotes. -/
def multiBasicBody (acc : List Char) (s : List Char) : Option (String × List Char) :=
  match s with
  | [] => none
  | '"' :: '"' :: '"' :: _ => closing? '"' acc s
  | '\r' :: '\n' :: rest => multiBasicBody ('\n' :: acc) rest
  | '\\' :: rest =>
    match h : continued? rest with
    | some behind =>
      have := length_lt_of_continued h
      multiBasicBody acc behind
    | none =>
      match h : escape? rest with
      | none => none
      | some (c, behind) =>
        have := length_lt_of_escape h
        multiBasicBody (c :: acc) behind
  | c :: rest => if c = '\n' || isVisible c then multiBasicBody (c :: acc) rest else none
termination_by s.length

/-- Reads a literal string over several lines, behind its opening quotes. -/
def multiLiteralBody (acc : List Char) : Reader String
  | [] => none
  | '\'' :: '\'' :: '\'' :: rest => closing? '\'' acc ('\'' :: '\'' :: '\'' :: rest)
  | '\r' :: '\n' :: rest => multiLiteralBody ('\n' :: acc) rest
  | c :: rest => if c = '\n' || isVisible c then multiLiteralBody (c :: acc) rest else none

/-- Drops a line end directly behind opening quotes. -/
def dropFirstNewline (s : List Char) : List Char := (newline? s).getD s

/-- Reads a string in any of the four forms. -/
def string? : Reader String
  | '"' :: '"' :: '"' :: rest => multiBasicBody [] (dropFirstNewline rest)
  | '"' :: rest => basicBody [] rest
  | '\'' :: '\'' :: '\'' :: rest => multiLiteralBody [] (dropFirstNewline rest)
  | '\'' :: rest => literalBody [] rest
  | _ => none

/-- Whether a character may stand in a bare key. -/
def isKeyChar (c : Char) : Bool :=
  ('a' ≤ c && c ≤ 'z') || ('A' ≤ c && c ≤ 'Z') || Text.isDigit c || c = '_' || c = '-'

/-- Reads one part of a key: bare, or a string on one line. -/
def simpleKey? : Reader String
  | '"' :: rest => basicBody [] rest
  | '\'' :: rest => literalBody [] rest
  | s =>
    let name := s.takeWhile isKeyChar
    if name.isEmpty then none else some (String.ofList name, s.dropWhile isKeyChar)

/-- Reads the parts of a key between dots; `fuel` bounds their number. -/
def keyParts? (fuel : Nat) (s : List Char) : Option (List String × List Char) :=
  match fuel with
  | 0 => none
  | fuel + 1 => do
    let (part, rest) ← simpleKey? (dropBlanks s)
    match dropBlanks rest with
    | '.' :: rest =>
      let (parts, rest) ← keyParts? fuel rest
      some (part :: parts, rest)
    | rest => some ([part], rest)

/-- The largest depth of arrays and inline tables, and the largest number of parts of a
key. -/
def depthLimit : Nat := 79

/-- Reads a key: its parts but the last, and the last. -/
def key? (s : List Char) : Option ((List String × String) × List Char) := do
  let (parts, rest) ← keyParts? depthLimit s
  let last ← parts.getLast?
  some ((parts.dropLast, last), rest)

end ContainerBuild.Toml
