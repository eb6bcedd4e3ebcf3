/-!
# Decimal numbers

Reading and writing natural numbers in decimal digits.
-/

namespace ContainerBuild.Text

/-- Whether a character is one of the ten ASCII digits. -/
def isDigit (c : Char) : Bool := '0' ≤ c && c ≤ '9'

/-- The value of an ASCII digit. -/
def digitValue (c : Char) : Nat := c.toNat - '0'.toNat

/-- The number that a list of digits denotes. -/
def digitsValue (s : List Char) : Nat :=
  s.foldl (fun n c ↦ 10 * n + digitValue c) 0

/-- Reads a number written in one or more digits. -/
def readNat? (s : List Char) : Option Nat :=
  if !s.isEmpty && s.all isDigit then some (digitsValue s) else none

/-- Writes a number in decimal. -/
def decimal (n : Nat) : String := String.ofList (Nat.toDigits 10 n)

end ContainerBuild.Text
