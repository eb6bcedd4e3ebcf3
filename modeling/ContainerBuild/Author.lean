import ContainerBuild.Text.Blank
import ContainerBuild.Text.Split

/-!
# Authors

An author has a name and perhaps an address, written `Name <address>`.
-/

namespace ContainerBuild

/-- A project author. -/
structure Author where
  name : String
  email : Option String
deriving DecidableEq, Repr, Inhabited

namespace Author

/-- Drops the double quotes at both ends. -/
def dropQuotes (s : List Char) : List Char :=
  Text.dropEndWhile (· = '"') (s.dropWhile (· = '"'))

/-- Cuts a text with an address at its end into the name, which may stand in quotes,
and the address behind the first opening bracket. -/
def addressed? (s : List Char) : Option (List Char × List Char) :=
  match s.reverse with
  | '>' :: inner =>
    (Text.cutAt '<' inner.reverse).map fun (name, email) ↦
      (dropQuotes (Text.trimChars name), Text.trimChars email)
  | _ => none

/-- Reads an author: a name with an address in brackets, or else a name alone. -/
def parse (text : String) : Author :=
  let s := Text.trimChars text.toList
  match addressed? s with
  | some (name, email) => ⟨String.ofList name, some (String.ofList email)⟩
  | none => ⟨String.ofList s, none⟩

/-- The written form of an author. -/
def render (a : Author) : String :=
  match a.email with
  | none => a.name
  | some email => if a.name = "" then "<" ++ email ++ ">" else a.name ++ " <" ++ email ++ ">"

end Author

end ContainerBuild
