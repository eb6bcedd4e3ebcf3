import ContainerBuild.Text.CodePoints
import ContainerBuild.Text.Decimal

/-!
# Internet addresses

Addresses of version 4 in any of the forms that URLs allow, and addresses of version 6
with their shortest written form.
-/

namespace ContainerBuild.Url

/-- An address of version 4, as a number of 32 bits. -/
structure Ipv4 where
  value : Nat
deriving DecidableEq, Repr

/-- An address of version 6: eight pieces of 16 bits. -/
structure Ipv6 where
  pieces : List Nat
deriving DecidableEq, Repr

/-- Cuts the mark of a base off a number: `0x` for sixteen, and a zero before other
characters for eight. -/
def numberBase : List Char → Nat × List Char
  | '0' :: 'x' :: rest => (16, rest)
  | '0' :: 'X' :: rest => (16, rest)
  | '0' :: c :: rest => (8, c :: rest)
  | s => (10, s)

/-- Reads a part of an address of version 4. -/
def ipv4Number? (s : List Char) : Option Nat :=
  if s.isEmpty then none
  else
    let (base, digits) := numberBase s
    digits.foldl (fun n c ↦ do
      let d ← Text.hexValue? c
      if d < base then pure (base * (← n) + d) else none) (some 0)

/-- The parts of a name between dots, without one empty part at its end. -/
def dottedParts (s : List Char) : List (List Char) :=
  let parts := s.splitOn '.'
  if 1 < parts.length && parts.getLast? = some [] then parts.dropLast else parts

/-- Whether the last part of a name is a number, so that the name has to be an address. -/
def endsInNumber (s : List Char) : Bool :=
  match (dottedParts s).getLast? with
  | none | some [] => false
  | some last => last.all Text.isDigit || (ipv4Number? last).isSome

/-- Adds the parts before the last one, each a byte further up. -/
def ipv4Sum (place last : Nat) : List Nat → Nat
  | [] => last
  | n :: rest => n * Nat.pow 256 place + ipv4Sum (place - 1) last rest

/-- Reads an address of version 4: one to four numbers, of which the last fills the
bytes that are left. -/
def Ipv4.parse? (s : List Char) : Option Ipv4 := do
  let parts := dottedParts s
  if 4 < parts.length then none
  else
    let numbers ← parts.mapM ipv4Number?
    let last ← numbers.getLast?
    let before := numbers.dropLast
    if before.all (· ≤ 255) && last < Nat.pow 256 (4 - before.length) then
      some ⟨ipv4Sum 3 last before⟩
    else none

/-- The written form of an address of version 4. -/
def Ipv4.render (a : Ipv4) : String :=
  ".".intercalate ([Nat.pow 256 3, Nat.pow 256 2, 256, 1].map fun place ↦
    Text.decimal (a.value / place % 256))

/-- Reads one piece: one to four hexadecimal digits. -/
def ipv6Piece? (s : List Char) : Option Nat :=
  if s.isEmpty || 4 < s.length then none
  else s.foldl (fun n c ↦ do pure (16 * (← n) + (← Text.hexValue? c))) (some 0)

/-- Reads a byte in decimal, without a zero before other digits. -/
def octet? (s : List Char) : Option Nat := do
  let n ← Text.readNat? s
  if n ≤ 255 && (s.length = 1 || s.head? ≠ some '0') then some n else none

/-- Reads the last part of an address of version 6, where an address of version 4 may
stand for two pieces. -/
def ipv6Tail? (s : List Char) : Option (List Nat) :=
  if s.contains '.' then
    match (s.splitOn '.').mapM octet? with
    | some [a, b, c, d] => some [256 * a + b, 256 * c + d]
    | _ => none
  else (ipv6Piece? s).map ([·])

/-- Reads pieces between colons; only the last of all may be an address of version 4. -/
def ipv6Pieces? (isLast : Bool) : List (List Char) → Option (List Nat)
  | [] => some []
  | [part] => if isLast then ipv6Tail? part else (ipv6Piece? part).map ([·])
  | part :: rest => do pure ((← ipv6Piece? part) :: (← ipv6Pieces? isLast rest))

/-- Reads one side of the gap; nothing may stand there. -/
def ipv6Side? (isLast : Bool) (s : List Char) : Option (List Nat) :=
  if s.isEmpty then some [] else ipv6Pieces? isLast (s.splitOn ':')

/-- Cuts at the first two colons. -/
def cutGap : List Char → Option (List Char × List Char)
  | ':' :: ':' :: rest => some ([], rest)
  | c :: rest => (cutGap rest).map fun (a, b) ↦ (c :: a, b)
  | [] => none

/-- Reads an address of version 6: eight pieces, or fewer with a gap for the zeros. -/
def Ipv6.parse? (s : List Char) : Option Ipv6 :=
  match cutGap s with
  | some (before, behind) => do
    let a ← ipv6Side? false before
    let b ← ipv6Side? true behind
    if a.length + b.length ≤ 7 then
      some ⟨a ++ List.replicate (8 - a.length - b.length) 0 ++ b⟩
    else none
  | none => do
    let pieces ← ipv6Side? true s
    if pieces.length = 8 then some ⟨pieces⟩ else none

/-- The number of zeros at the front. -/
def leadingZeros (pieces : List Nat) : Nat := (pieces.takeWhile (· == 0)).length

/-- The first longest run of at least two zeros: where it starts and how long it is. -/
def longestGap (pieces : List Nat) : Option (Nat × Nat) :=
  (List.range pieces.length).foldl (fun best i ↦
    let n := leadingZeros (pieces.drop i)
    match best with
    | none => if 2 ≤ n then some (i, n) else none
    | some (_, m) => if m < n then some (i, n) else best) none

/-- Pieces in hexadecimal, between colons. -/
def renderPieces (pieces : List Nat) : String :=
  ":".intercalate (pieces.map fun n ↦ String.ofList (Nat.toDigits 16 n))

/-- The written form of an address of version 6, with a gap for the longest run of
zeros. -/
def Ipv6.render (a : Ipv6) : String :=
  match longestGap a.pieces with
  | none => renderPieces a.pieces
  | some (start, count) =>
    renderPieces (a.pieces.take start) ++ "::" ++ renderPieces (a.pieces.drop (start + count))

end ContainerBuild.Url
