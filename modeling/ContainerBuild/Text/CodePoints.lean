/-!
# Sets of code points

A set of characters written as lines of text: hexadecimal code points and ranges of
them, between spaces, as in `41-5A 5F 61-7A`.
-/

namespace ContainerBuild.Text

/-- The value of a hexadecimal digit, if it is one. -/
def hexValue? (c : Char) : Option Nat :=
  if '0' ≤ c && c ≤ '9' then some (c.toNat - '0'.toNat)
  else if 'a' ≤ c && c ≤ 'f' then some (c.toNat - 'a'.toNat + 10)
  else if 'A' ≤ c && c ≤ 'F' then some (c.toNat - 'A'.toNat + 10)
  else none

/-- The number that hexadecimal digits denote; any other character counts as zero. -/
def readHex (s : List Char) : Nat :=
  s.foldl (fun n c ↦ 16 * n + (hexValue? c).getD 0) 0

/-- The entries of a table: what stands between spaces in its lines. -/
def entriesOf (lines : List String) : List (List Char) :=
  lines.flatMap fun line ↦ line.toList.splitOn ' '

/-- A set of characters, as ranges of code points. -/
structure CodePoints where
  ranges : List (Nat × Nat)
deriving DecidableEq, Repr

namespace CodePoints

/-- Reads one code point or range. -/
def rangeOfText (s : List Char) : Nat × Nat :=
  match s.splitOn '-' with
  | [first, last] => (readHex first, readHex last)
  | _ => (readHex s, readHex s)

/-- Reads a set from its lines. -/
def ofLines (lines : List String) : CodePoints :=
  ⟨(entriesOf lines).map rangeOfText⟩

/-- Whether a character is in the set. -/
def contains (set : CodePoints) (c : Char) : Bool :=
  set.ranges.any fun (first, last) ↦ first ≤ c.toNat && c.toNat ≤ last

end CodePoints

end ContainerBuild.Text
