/-!
# Punycode

A text beyond ASCII in ASCII letters, digits and hyphens. The ASCII characters come first,
and a hyphen behind them. Then each other character, in ascending order, is written as the
number of places and code points to pass over until it is inserted. The numbers have digits
to base 36 whose weights adapt to the numbers before.
-/

namespace ContainerBuild.Url.Punycode

/-- The base of the digits. -/
def base : Nat := 36

/-- The first code point beyond ASCII. -/
def firstCode : Nat := 0x80

/-- The bias at the beginning. -/
def firstBias : Nat := 72

/-- The last digit that ends a number at a place: at least 1 and at most 26. -/
def threshold (place bias : Nat) : Nat := max 1 (min 26 (place - bias))

/-- The threshold is at least one. -/
theorem one_le_threshold (place bias : Nat) : 1 ≤ threshold place bias := Nat.le_max_left _ _

/-- The threshold is at most 26. -/
theorem threshold_le (place bias : Nat) : threshold place bias ≤ 26 := by
  unfold threshold
  omega

/-- Divides a number by 35 until it is at most 455, and counts the steps. -/
def scaleDelta (delta : Nat) : Nat × Nat :=
  if 455 < delta then
    let (steps, scaled) := scaleDelta (delta / 35)
    (steps + 1, scaled)
  else (0, delta)
termination_by delta
decreasing_by exact Nat.div_lt_self (by omega) (by omega)

/-- The bias behind a number, with `count` characters written. -/
def adapt (delta count : Nat) (isFirst : Bool) : Nat :=
  let damped := if isFirst then delta / 700 else delta / 2
  let (steps, scaled) := scaleDelta (damped + damped / count)
  base * steps + base * scaled / (scaled + 38)

/-! ## Writing -/

/-- A digit. -/
def digit (n : Nat) : Char :=
  if n < 26 then Char.ofNat ('a'.toNat + n) else Char.ofNat ('0'.toNat + (n - 26))

/-- The digits of a number from a place on. -/
def digits (place bias n : Nat) : List Char :=
  let t := threshold place bias
  if n < t then [digit n]
  else digit (t + (n - t) % (base - t)) :: digits (place + base) bias ((n - t) / (base - t))
termination_by n
decreasing_by
  have h := one_le_threshold place bias
  exact Nat.lt_of_le_of_lt (Nat.div_le_self _ _) (by omega)

/-- What is written, and what is passed over since the last number. -/
structure Writer where
  output : List Char
  delta : Nat
  bias : Nat
  /-- The number of characters written. -/
  count : Nat

/-- Passes over a character, or writes it when it has the given code point. -/
def Writer.pass (asciiCount code : Nat) (w : Writer) (c : Char) : Writer :=
  if c.toNat < code then { w with delta := w.delta + 1 }
  else if c.toNat = code then
    { output := w.output ++ digits base w.bias w.delta
      delta := 0
      bias := adapt w.delta (w.count + 1) (w.count = asciiCount)
      count := w.count + 1 }
  else w

/-- Writes all characters with one of the given code points, which ascend; `next` is the
one that comes after the last that was written. -/
def writeCodes (s : List Char) (asciiCount next : Nat) (w : Writer) : List Nat → Writer
  | [] => w
  | code :: rest =>
    let w := { w with delta := w.delta + (code - next) * (w.count + 1) }
    let w := s.foldl (Writer.pass asciiCount code) w
    writeCodes s asciiCount (code + 1) { w with delta := w.delta + 1 } rest

/-- The code points beyond ASCII in a text, in ascending order. -/
def codes (s : List Char) : List Nat :=
  (((s.map Char.toNat).filter (firstCode ≤ ·)).mergeSort fun a b ↦ a ≤ b).eraseDups

/-- The written form of a text. -/
def encode (s : List Char) : List Char :=
  let ascii := s.filter (·.toNat < firstCode)
  let w := writeCodes s ascii.length firstCode ⟨[], 0, firstBias, ascii.length⟩ (codes s)
  (if ascii.isEmpty then [] else ascii ++ ['-']) ++ w.output

/-! ## Reading -/

/-- The value of a digit. -/
def digitValue? (c : Char) : Option Nat :=
  if 'a' ≤ c && c ≤ 'z' then some (c.toNat - 'a'.toNat)
  else if 'A' ≤ c && c ≤ 'Z' then some (c.toNat - 'A'.toNat)
  else if '0' ≤ c && c ≤ '9' then some (c.toNat - '0'.toNat + 26)
  else none

/-- What is read: the text so far, where the next character is inserted, and the number
that is read at present. -/
structure Cursor where
  text : List Char
  /-- The code point of the last inserted character. -/
  code : Nat
  /-- The place behind the last inserted character. -/
  index : Nat
  bias : Nat
  /-- The number so far. -/
  delta : Nat
  /-- The weight of the next digit. -/
  weight : Nat
  place : Nat

/-- Inserts the character that a number leads to. -/
def Cursor.insert? (k : Cursor) : Option Cursor :=
  let count := k.text.length + 1
  let total := k.index + k.delta
  let code := k.code + total / count
  let index := total % count
  if code.isValidChar then
    some
      { text := k.text.take index ++ Char.ofNat code :: k.text.drop index
        code
        index := index + 1
        bias := adapt k.delta count (k.text.all (·.toNat < firstCode))
        delta := 0
        weight := 1
        place := base }
  else none

/-- Reads digits; the last one has to end a number. -/
def readDigits? (k : Cursor) : List Char → Option (List Char)
  | [] => if k.place = base then some k.text else none
  | c :: rest =>
    match digitValue? c with
    | none => none
    | some d =>
      let k := { k with delta := k.delta + d * k.weight }
      let t := threshold k.place k.bias
      if d < t then
        match k.insert? with
        | none => none
        | some k => readDigits? k rest
      else readDigits? { k with weight := k.weight * (base - t), place := k.place + base } rest

/-- What stands before and behind the last hyphen; a hyphen at the front is none. -/
def cutAscii (s : List Char) : List Char × List Char :=
  match s.reverse.dropWhile (· ≠ '-') with
  | _ :: c :: rest => ((c :: rest).reverse, (s.reverse.takeWhile (· ≠ '-')).reverse)
  | _ => ([], s)

/-- The text of a written form, if it is one. -/
def decode? (s : List Char) : Option (List Char) :=
  let (ascii, written) := cutAscii s
  readDigits? ⟨ascii, firstCode, 0, firstBias, 0, 1, base⟩ written

end ContainerBuild.Url.Punycode
