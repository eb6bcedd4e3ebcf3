import ContainerBuild.Json.Basic

/-!
# Reading JSON numbers

The grammar of numbers, and the value of one: an integer as long as it fits 64 bits,
and otherwise the floating-point number that its leading digits and a power of ten
give. A number beyond the floating-point range has no value.
-/

namespace ContainerBuild.Json

/-- The parts of a number text. -/
structure NumberText where
  negative : Bool
  whole : List Char
  fraction : List Char
  /-- The exponent with its sign, `true` for minus. -/
  exponent : Option (Bool × List Char)
deriving DecidableEq, Repr

/-- Cuts the digits off the front of a text. -/
def cutDigits (s : List Char) : List Char × List Char :=
  (s.takeWhile Text.isDigit, s.dropWhile Text.isDigit)

/-- Reads the digits behind a point, if there is one. -/
def fraction? (s : List Char) : Option (List Char × List Char) :=
  match s with
  | '.' :: rest =>
    let (digits, behind) := cutDigits rest
    if digits.isEmpty then none else some (digits, behind)
  | s => some ([], s)

/-- Reads the digits of an exponent behind its sign. -/
def exponentDigits? (negative : Bool) (s : List Char) :
    Option (Option (Bool × List Char) × List Char) :=
  let (digits, behind) := cutDigits s
  if digits.isEmpty then none else some (some (negative, digits), behind)

/-- Reads an exponent, if there is one. -/
def exponent? (s : List Char) : Option (Option (Bool × List Char) × List Char) :=
  match s with
  | c :: rest =>
    if c = 'e' || c = 'E' then
      match rest with
      | '-' :: digits => exponentDigits? true digits
      | '+' :: digits => exponentDigits? false digits
      | digits => exponentDigits? false digits
    else some (none, c :: rest)
  | [] => some (none, [])

/-- Whether digits may stand before the point: some, and no zero before another. -/
def isWhole : List Char → Bool
  | [] => false
  | ['0'] => true
  | c :: _ => c ≠ '0'

/-- Reads a number text from the front. -/
def numberText? (s : List Char) : Option (NumberText × List Char) := do
  let (negative, s) := match s with
    | '-' :: rest => (true, rest)
    | s => (false, s)
  let (whole, s) := cutDigits s
  if !isWhole whole then none
  else
    let (fraction, s) ← fraction? s
    let (exponent, s) ← exponent? s
    some (⟨negative, whole, fraction, exponent⟩, s)

/-- The largest number of 64 bits. -/
def wordLimit : Nat := Nat.pow 2 64 - 1

/-- Takes digits into a significand while it fits 64 bits; the second part counts those
taken and the third those left. -/
def takeDigits (significand taken : Nat) : List Char → Nat × Nat × Nat
  | [] => (significand, taken, 0)
  | c :: rest =>
    let next := 10 * significand + Text.digitValue c
    if next ≤ wordLimit then takeDigits next (taken + 1) rest
    else (significand, taken, rest.length + 1)

/-- A power of ten, up to `10 ^ 308`. -/
def powerOfTen (n : Nat) : Float := Float.ofScientific 1 false n

/-- Scales a number by a negative power of ten, in steps of at most 308 places. -/
def scaleDown (steps : Nat) (x : Float) (places : Nat) : Float :=
  if places ≤ 308 then x / powerOfTen places
  else
    match steps with
    | 0 => 0
    | steps + 1 => scaleDown steps (x / powerOfTen 308) (places - 308)

/-- The floating-point number `significand * 10 ^ exponent`, unless it is too large. -/
def scaled? (significand : Nat) (exponent : Int) : Option Float :=
  let x := Float.ofNat significand
  if significand = 0 then some x
  else if exponent < 0 then some (scaleDown 4 x exponent.natAbs)
  else if 308 < exponent then none
  else
    let y := x * powerOfTen exponent.natAbs
    if y.isInf then none else some y

/-- The largest exponent that is taken at its value. -/
def exponentLimit : Nat := Nat.pow 2 31 - 1

/-- The floating-point number with a significand, places and a written exponent. -/
def withExponent? (significand : Nat) (places : Int) :
    Option (Bool × List Char) → Option Float
  | none => scaled? significand places
  | some (negative, digits) =>
    let e := Text.digitsValue digits
    if exponentLimit < e then (if significand ≠ 0 && !negative then none else some 0)
    else scaled? significand (places + (if negative then -(e : Int) else e))

/-- The value of a number text; a number that is too large has none. -/
def NumberText.value? (t : NumberText) : Option Number :=
  let (significand, _, left) := takeDigits 0 0 t.whole
  let sign (x : Float) : Float := if t.negative then -x else x
  if left = 0 && t.fraction.isEmpty && t.exponent.isNone then
    if !t.negative then some (.natural significand)
    else if significand = 0 || Nat.pow 2 63 < significand then
      some (.float (sign (Float.ofNat significand)))
    else some (.negative significand)
  else
    let (significand, taken, _) := takeDigits significand 0 t.fraction
    (withExponent? significand (left - taken : Int) t.exponent).map fun x ↦ .float (sign x)

end ContainerBuild.Json
