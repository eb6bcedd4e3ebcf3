import ContainerBuild.Text.CodePoints

/-!
# Percent encoding

Which characters of each part of a URL are written by the numbers of their UTF-8
bytes. Characters beyond ASCII always are.
-/

namespace ContainerBuild.Url

/-- Whether a character stays as it is in a part of a URL. -/
abbrev Kept := Char → Bool

/-- What stays in an opaque host or path: no controls. -/
def keptOpaque (c : Char) : Bool := 0x20 ≤ c.toNat && c.toNat < 0x7F

/-- What stays in a query. -/
def keptQuery (c : Char) : Bool :=
  keptOpaque c && !(c = ' ' || c = '"' || c = '#' || c = '<' || c = '>')

/-- What stays in the query of a special scheme. -/
def keptSpecialQuery (c : Char) : Bool := keptQuery c && c ≠ '\''

/-- What stays in a fragment. -/
def keptFragment (c : Char) : Bool :=
  keptOpaque c && !(c = ' ' || c = '"' || c = '<' || c = '>' || c.toNat = 0x60)

/-- What stays in a path. -/
def keptPath (c : Char) : Bool :=
  keptFragment c && !(c = '#' || c = '?' || c.toNat = 0x7B || c.toNat = 0x7D)

/-- What stays in a user name or a password. -/
def keptUserinfo (c : Char) : Bool :=
  keptPath c && !(c = '/' || c = ':' || c = ';' || c = '=' || c = '@' || c = '[' ||
    c = '\\' || c = ']' || c = '^' || c = '|')

/-- A digit of an encoded byte. -/
def hexDigit (n : Nat) : Char :=
  if n < 10 then Char.ofNat ('0'.toNat + n) else Char.ofNat ('A'.toNat + (n - 10))

/-- A byte by its number. -/
def encodeByte (b : UInt8) : List Char :=
  ['%', hexDigit (b.toNat / 16), hexDigit (b.toNat % 16)]

/-- A character as it stands in a part of a URL. -/
def encodeChar (kept : Kept) (c : Char) : List Char :=
  if kept c then [c] else (String.utf8EncodeChar c).flatMap encodeByte

/-- A text as it stands in a part of a URL. -/
def encode (kept : Kept) (s : List Char) : List Char := s.flatMap (encodeChar kept)

/-- The bytes of a text in which bytes may be written by their numbers. -/
def decodeBytes : List Char → List UInt8
  | [] => []
  | '%' :: a :: b :: rest =>
    match Text.hexValue? a, Text.hexValue? b with
    | some x, some y => UInt8.ofNat (16 * x + y) :: decodeBytes rest
    | _, _ => String.utf8EncodeChar '%' ++ decodeBytes (a :: b :: rest)
  | c :: rest => String.utf8EncodeChar c ++ decodeBytes rest

/-- The text in which bytes may be written by their numbers, if the bytes are UTF-8. -/
def decode? (s : List Char) : Option (List Char) :=
  (String.fromUTF8? (decodeBytes s).toByteArray).map String.toList

end ContainerBuild.Url
