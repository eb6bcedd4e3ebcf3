import ContainerBuild.Url.Bidi
import ContainerBuild.Url.Label

/-!
# Domain names

The ASCII form of a domain name. Letters become lower case, look-alikes are replaced, and
labels beyond ASCII are written in ASCII. Characters that have a meaning elsewhere in a URL
are refused.
-/

namespace ContainerBuild.Url

/-- Whether a character may stand in the ASCII form of a domain. -/
def isDomainChar (c : Char) : Bool :=
  0x20 < c.toNat && c.toNat < 0x7F && c.toLower = c &&
    !(c = '#' || c = '%' || c = '/' || c = ':' || c = '<' || c = '>' || c = '?' || c = '@' ||
      c = '[' || c = '\\' || c = ']' || c = '^' || c = '|')

/-- What a character is replaced by; none of some characters may stand in a domain. -/
def replaced? (c : Char) : Option (List Char) :=
  if Label.isAscii c then some [c.toLower]
  else if ignoredChars.contains c then some []
  else
    match replacements.image? c with
    | some text => some text
    | none => if disallowedChars.contains c then none else some [c]

/-- A text with all characters replaced, in composed form. -/
def mapped? (s : List Char) : Option (List Char) :=
  (s.mapM replaced?).map fun l ↦ Text.canonical l.flatten

/-- The labels of a domain name as they are read. -/
def labels? (s : List Char) : Option (List (List Char)) := (s.splitOn '.').mapM Label.decode?

/-- The ASCII form of a domain name beyond ASCII or with labels behind the mark. -/
def encoded? (s : List Char) : Option (List Char) := do
  let labels ← labels? (← mapped? s)
  if keepsDirections labels then some (['.'].intercalate (labels.map Label.encode)) else none

/-- The ASCII form of a domain name, if it has one. -/
def domainToAscii? (s : List Char) : Option (List Char) :=
  (encoded? s).filter (·.all isDomainChar)

end ContainerBuild.Url
