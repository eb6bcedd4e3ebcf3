import ContainerBuild.Quote

/-!
# Reading shell commands

How a POSIX shell takes a command apart. Blanks separate words, operators are tokens of their
own, a backslash or quotes keep characters as they are, and between double quotes a dollar before
a parenthesis stands for what a command prints. The reader keeps apart what stood bare and what
was quoted, so that an assignment or a pattern can still be told from a text that looks like one.

The reader refuses what would make the words depend on more than the text: parameters,
substitution outside of double quotes or between backquotes, and also comments, groups,
here-documents and numbered redirections, which no command needs here. What it reads is therefore
all that a shell finds.
-/

namespace ContainerBuild.Shell

mutual

/-- A part of a word. -/
inductive Part where
  /-- A character outside of quotes. -/
  | bare (c : Char)
  /-- A character that quotes or a backslash keep as it is. -/
  | quoted (c : Char)
  /-- What a command prints, between double quotes and so in one piece. -/
  | output (command : List Token)

/-- A token of a command. -/
inductive Token where
  | word (parts : List Part)
  | operator (text : List Char)

end

/-- The parts of a token; an operator has none. -/
def Token.parts : Token → List Part
  | .word parts => parts
  | .operator _ => []

/-- Whether a part is a digit outside of quotes. -/
def Part.isBareDigit : Part → Bool
  | .bare c => c.isDigit
  | _ => false

/-- The characters that make a pattern of a word, or a directory of someone's. -/
def patternChars : List Char := ['*', '?', '[', '~', '\x7b']

/-- Whether a character outside of quotes leaves a word what it is. -/
def isInert (c : Char) : Bool := !patternChars.contains c

/-- What a part is where nothing is expanded but what the given commands print. -/
def Part.IsFixed (commands : List (List Token)) : Part → Prop
  | .bare c => isInert c = true
  | .quoted _ => True
  | .output command => command ∈ commands

/-- In a token nothing is expanded but what the given commands print. -/
def Token.IsFixed (commands : List (List Token)) (token : Token) : Prop :=
  ∀ part ∈ token.parts, part.IsFixed commands

/-- A word without quotes. -/
def Token.bare (s : String) : Token := .word (s.toList.map .bare)

/-- A word of which every character is quoted. -/
def Token.quoted (s : String) : Token := .word (s.toList.map .quoted)

/-- The operators. -/
def operators : List (List Char) :=
  [['<'], ['>'], ['|'], ['&'], [';'], ['\n'], ['&', '&'], ['|', '|']]

/-- The characters of operators. -/
def operatorChars : List Char := ['<', '>', '|', '&', ';', '\n']

/-- The characters with a meaning of their own. -/
def specialChars : List Char :=
  operatorChars ++ [' ', '\t', '\'', '"', '\\', '$', '\x60', '(', ')', '#']

/-- Whether a character is part of an operator. -/
def isOperatorChar (c : Char) : Bool := operatorChars.contains c

/-- Whether a character stands for itself wherever it stands. -/
def isPlain (c : Char) : Bool := !specialChars.contains c

/-- Whether a text is a word that stands for itself wherever it stands. -/
def isPlainWord (s : String) : Bool := !s.toList.isEmpty && s.toList.all isPlain

/-- Whether a character behind a dollar makes it a parameter. -/
def opensParameter (c : Char) : Bool :=
  c.isAlphanum || c = '_' || c = '\x7b' || c = '@' || c = '*' || c = '#' || c = '?' ||
    c = '-' || c = '$' || c = '!' || c = '('

/-- Whether a backslash between double quotes escapes a character. -/
def isEscapable (c : Char) : Bool := c = '$' || c = '\x60' || c = '\\' || c = '"'

/-- How the next character is taken. -/
inductive Mode where
  | bare
  /-- Behind a backslash. -/
  | escaped
  | single
  | double
  /-- Behind a backslash between double quotes. -/
  | doubleEscaped
  /-- Behind a dollar between double quotes. -/
  | dollar
deriving DecidableEq

/-- A command that is being read. -/
structure Frame where
  complete : List Token := []
  /-- The token that has been begun. -/
  begun : Option Token := none
  mode : Mode := .bare

namespace Frame

/-- Takes the next character in another way. -/
def setMode (f : Frame) (mode : Mode) : Frame := { f with mode }

/-- Completes the token that has been begun. -/
def close (f : Frame) : Frame :=
  { f with complete := f.complete ++ f.begun.toList, begun := none }

/-- Puts parts into the word that has been begun, or else into a new one. -/
def add (f : Frame) (parts : List Part) : Frame :=
  match f.begun with
  | some (.word before) => { f with begun := some (.word (before ++ parts)) }
  | _ => { f.close with begun := some (.word parts) }

/-- Whether a word has been begun. -/
def inWord (f : Frame) : Bool :=
  match f.begun with
  | some (.word _) => true
  | _ => false

/-- Begins an operator behind what has been begun. -/
def begin (f : Frame) (c : Char) : Frame := { f.close with begun := some (.operator [c]) }

/-- Puts a character into the operator that has been begun, or else into a new one. -/
def operate? (f : Frame) (c : Char) : Option Frame :=
  match f.begun with
  | some (.operator text) =>
    if text ++ [c] ∈ operators then some { f with begun := some (.operator (text ++ [c])) }
    else none
  | some (.word parts) =>
    -- a number right before a redirection belongs to it
    if (c = '<' || c = '>') && parts.all Part.isBareDigit then none else some (f.begin c)
  | none => some (f.begin c)

/-- Takes a character outside of quotes. -/
def bareStep? (f : Frame) (c : Char) : Option Frame :=
  if isPlain c then some (f.add [.bare c])
  else if c = ' ' || c = '\t' then some f.close
  else if isOperatorChar c then f.operate? c
  else if c = '\'' then some ((f.add []).setMode .single)
  else if c = '"' then some ((f.add []).setMode .double)
  else if c = '\\' then some (f.setMode .escaped)
  else if c = '#' && f.inWord then some (f.add [.bare c])
  else none

/-- Takes a character between double quotes. -/
def doubleStep? (f : Frame) (c : Char) : Option Frame :=
  if c = '"' then some (f.setMode .bare)
  else if c = '\\' then some (f.setMode .doubleEscaped)
  else if c = '$' then some (f.setMode .dollar)
  else if c = '\x60' then none
  else some (f.add [.quoted c])

/-- Takes a character that neither opens nor closes a substituted command. -/
def step? (f : Frame) (c : Char) : Option Frame :=
  match f.mode with
  | .bare => f.bareStep? c
  | .escaped =>
    if c = '\n' then some (f.setMode .bare) else some ((f.add [.quoted c]).setMode .bare)
  | .single => if c = '\'' then some (f.setMode .bare) else some (f.add [.quoted c])
  | .double => f.doubleStep? c
  | .doubleEscaped =>
    if c = '\n' then some (f.setMode .double)
    else if isEscapable c then some ((f.add [.quoted c]).setMode .double)
    else some ((f.add [.quoted '\\', .quoted c]).setMode .double)
  | .dollar =>
    if opensParameter c then none else ((f.add [.quoted '$']).setMode .double).doubleStep? c

end Frame

/-- A command that is being read, inside the commands that it is substituted into. -/
structure Reader where
  frame : Frame := {}
  outer : List Frame := []

namespace Reader

/-- Begins a substituted command. -/
def enter (r : Reader) : Reader := ⟨{}, r.frame.setMode .double :: r.outer⟩

/-- Ends a substituted command. -/
def leave? (r : Reader) : Option Reader :=
  match r.outer with
  | [] => none
  | f :: rest => some ⟨f.add [.output r.frame.close.complete], rest⟩

/-- Takes a character. -/
def step? (r : Reader) (c : Char) : Option Reader :=
  if r.frame.mode = .bare && c = ')' then r.leave?
  else if r.frame.mode = .dollar && c = '(' then some r.enter
  else (r.frame.step? c).map fun frame ↦ { r with frame }

/-- Takes the characters of a text. -/
def run? (r : Reader) (s : List Char) : Option Reader := s.foldlM step? r

/-- The tokens, when no quotes and no substituted command are open. -/
def tokens? (r : Reader) : Option (List Token) :=
  if r.outer.isEmpty && r.frame.mode = .bare then some r.frame.close.complete else none

end Reader

/-- The tokens of a command. -/
def read? (s : List Char) : Option (List Token) := (Reader.run? {} s).bind Reader.tokens?

/-- Quotes, operators and a substituted command. -/
example :
    read? "A=1 'b c'\"d\\$\\e\" && f\\ g \"$(h < 'i)')j\"".toList =
      some
        [.bare "A=1", .word ("b cd$\\e".toList.map .quoted), .operator ['&', '&'],
          .word [.bare 'f', .quoted ' ', .bare 'g'],
          .word [.output [.bare "h", .operator ['<'], .quoted "i)"], .quoted 'j']] := by
  rfl

/-- A parameter is refused, as is a quote that stays open. -/
example : read? "\"$HOME\"".toList = none ∧ read? "'a".toList = none := by
  constructor <;> rfl

end ContainerBuild.Shell
