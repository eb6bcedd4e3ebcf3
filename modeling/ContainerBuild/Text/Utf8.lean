/-!
# Reading UTF-8

Bytes as text. `readText` puts one replacement character for each longest run of bytes
that opens a character but does not complete it, and for each byte that cannot open one.
-/

namespace ContainerBuild.Text

/-- The character that stands for what cannot be read. -/
def replacement : Char := '\ufffd'

/-- What may follow a first byte: the range of the second byte, and the number of bytes
behind that one. Nothing follows an ASCII byte, and other bytes cannot come first. -/
def following (b : UInt8) : Option (UInt8 × UInt8 × Nat) :=
  if 0xC2 ≤ b && b ≤ 0xDF then some (0x80, 0xBF, 0)
  else if b = 0xE0 then some (0xA0, 0xBF, 1)
  else if b = 0xED then some (0x80, 0x9F, 1)
  else if 0xE1 ≤ b && b ≤ 0xEF then some (0x80, 0xBF, 1)
  else if b = 0xF0 then some (0x90, 0xBF, 2)
  else if b = 0xF4 then some (0x80, 0x8F, 2)
  else if 0xF1 ≤ b && b ≤ 0xF3 then some (0x80, 0xBF, 2)
  else none

/-- The bits of a byte that belong to its character. -/
def payload (b : UInt8) : Nat :=
  if b < 0x80 then b.toNat
  else if b < 0xC0 then b.toNat % 0x40
  else if b < 0xE0 then b.toNat % 0x20
  else if b < 0xF0 then b.toNat % 0x10
  else b.toNat % 0x08

/-- A character of which some bytes were read: their bits, the range of the next byte,
and the number of bytes behind that one. -/
structure Partial where
  bits : Nat
  low : UInt8
  high : UInt8
  more : Nat

/-- Begins a character with a byte. -/
def beginChar (b : UInt8) : List Char × Option Partial :=
  if b < 0x80 then ([Char.ofNat b.toNat], none)
  else
    match following b with
    | some (low, high, more) => ([], some ⟨payload b, low, high, more⟩)
    | none => ([replacement], none)

/-- Reads one byte, perhaps inside a character: what is complete, and what is not. -/
def step (pending : Option Partial) (b : UInt8) : List Char × Option Partial :=
  match pending with
  | none => beginChar b
  | some p =>
    if p.low ≤ b && b ≤ p.high then
      let bits := p.bits * 0x40 + payload b
      match p.more with
      | 0 => ([Char.ofNat bits], none)
      | more + 1 => ([], some ⟨bits, 0x80, 0xBF, more⟩)
    else
      let (chars, next) := beginChar b
      (replacement :: chars, next)

/-- Reads bytes, perhaps from inside a character on. -/
def readFrom (pending : Option Partial) : List UInt8 → List Char
  | [] => if pending.isSome then [replacement] else []
  | b :: rest =>
    let (chars, next) := step pending b
    chars ++ readFrom next rest

/-- The text of bytes, with replacement characters for what is not UTF-8. -/
def readText (bytes : List UInt8) : String := String.ofList (readFrom none bytes)

/-- The text of bytes that are UTF-8. -/
def text? (bytes : List UInt8) : Option String := String.fromUTF8? bytes.toByteArray

end ContainerBuild.Text
