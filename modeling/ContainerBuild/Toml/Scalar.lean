import ContainerBuild.Text.CodePoints
import ContainerBuild.Toml.Basic

/-!
# Numbers, booleans, dates and times of TOML

A value that opens with a digit or a sign is a date or a time if it looks like one,
else a floating-point number, else an integer of 64 bits.
-/

namespace ContainerBuild.Toml

/-- Reads digits for which `p` holds, with single underscores between them. -/
def digitRun? (p : Char → Bool) : Reader (List Char)
  | [] => none
  | c :: rest =>
    if p c then
      match rest with
      | '_' :: d :: more =>
        if p d then (digitRun? p (d :: more)).map fun (ds, behind) ↦ (c :: ds, behind)
        else none
      | ['_'] => none
      | d :: more =>
        if p d then (digitRun? p (d :: more)).map fun (ds, behind) ↦ (c :: ds, behind)
        else some ([c], d :: more)
      | [] => some ([c], [])
    else none

/-- Reads a sign, if there is one; `true` stands for minus. -/
def sign : List Char → Bool × List Char
  | '-' :: rest => (true, rest)
  | '+' :: rest => (false, rest)
  | s => (false, s)

/-- Reads the digits of a decimal integer: no zero stands before others. -/
def wholeDigits? : Reader (List Char)
  | '0' :: rest => some (['0'], rest)
  | s => digitRun? Text.isDigit s

/-- The number that digits of a base denote. -/
def digitsInBase (base : Nat) (ds : List Char) : Nat :=
  ds.foldl (fun n c ↦ base * n + (Text.hexValue? c).getD 0) 0

/-- The largest integer. -/
def integerLimit : Nat := Nat.pow 2 63 - 1

/-- Reads the digits of an integer in a base behind its mark. -/
def basedInteger? (base : Nat) (s : List Char) : Option (Value × List Char) := do
  let isBaseDigit (c : Char) : Bool := (Text.hexValue? c).any (· < base)
  let (ds, rest) ← digitRun? isBaseDigit s
  let n := digitsInBase base ds
  if n ≤ integerLimit then some (.integer n, rest) else none

/-- Reads an integer. -/
def integer? (s : List Char) : Option (Value × List Char) :=
  match s with
  | '0' :: 'x' :: rest => basedInteger? 16 rest
  | '0' :: 'o' :: rest => basedInteger? 8 rest
  | '0' :: 'b' :: rest => basedInteger? 2 rest
  | s => do
    let (negative, s) := sign s
    let (ds, rest) ← wholeDigits? s
    let n := Text.digitsValue ds
    if negative then
      if n ≤ integerLimit + 1 then some (.integer (-n), rest) else none
    else if n ≤ integerLimit then some (.integer n, rest) else none

/-- Reads an exponent behind its letter. -/
def exponentPart? (s : List Char) : Option (Int × List Char) := do
  let (negative, s) := sign s
  let (ds, rest) ← digitRun? Text.isDigit s
  let n := Text.digitsValue ds
  some (if negative then -n else n, rest)

/-- Whether an exponent follows. -/
def opensExponent : List Char → Bool
  | 'e' :: _ | 'E' :: _ => true
  | _ => false

/-- The floating-point number `digits * 10 ^ exponent`, in which an exponent far beyond
the range of such numbers is cut. -/
def floatOf (digits : Nat) (exponent : Int) : Float :=
  if digits = 0 then 0
  else
    let places : Int := (Nat.toDigits 10 digits).length + exponent
    if 400 < places then 1.0 / 0.0
    else if places < -400 then 0
    else Float.ofScientific digits (exponent < 0) exponent.natAbs

/-- Reads the part behind the whole digits that makes a number floating-point: digits
behind a point, an exponent, or both. -/
def fractionPart? (s : List Char) : Option ((List Char × Int) × List Char) :=
  match s with
  | '.' :: rest => do
    let (fraction, rest) ← digitRun? Text.isDigit rest
    if opensExponent rest then
      let (e, rest) ← exponentPart? (rest.drop 1)
      some ((fraction, e), rest)
    else some ((fraction, 0), rest)
  | s =>
    if opensExponent s then do
      let (e, rest) ← exponentPart? (s.drop 1)
      some (([], e), rest)
    else none

/-- Whether a number in digits is floating-point: a point or an exponent follows its
whole digits. -/
def looksLikeFloat (s : List Char) : Bool :=
  match wholeDigits? (sign s).2 with
  | some (_, '.' :: _) => true
  | some (_, rest) => opensExponent rest
  | none => false

/-- Reads a floating-point number in digits; one beyond the range is refused, but for a
negative one, which is infinite. -/
def digitFloat? (s : List Char) : Option (Value × List Char) := do
  let (negative, s) := sign s
  let (whole, rest) ← wholeDigits? s
  let ((fraction, e), rest) ← fractionPart? rest
  let x := floatOf (Text.digitsValue (whole ++ fraction)) (e - fraction.length)
  if negative then some (.float (-x), rest)
  else if x.isInf then none
  else some (.float x, rest)

/-- Reads a floating-point number that is written as a word. -/
def wordFloat? (s : List Char) : Option (Value × List Char) :=
  let (negative, s) := sign s
  match s with
  | 'i' :: 'n' :: 'f' :: rest =>
    some (.float (if negative then -1.0 / 0.0 else 1.0 / 0.0), rest)
  | 'n' :: 'a' :: 'n' :: rest => some (.float (0.0 / 0.0), rest)
  | _ => none

/-- Reads a number of exactly two digits within bounds. -/
def twoDigits? (low high : Nat) : Reader (List Char)
  | a :: b :: rest =>
    if Text.isDigit a && Text.isDigit b then
      let n := Text.digitsValue [a, b]
      if low ≤ n && n ≤ high then some ([a, b], rest) else none
    else none
  | _ => none

/-- Reads a given character. -/
def char? (c : Char) : List Char → Option (List Char)
  | d :: rest => if c = d then some rest else none
  | [] => none

/-- The number of days of a month. -/
def daysIn (year month : Nat) : Nat :=
  if month = 2 then
    if (year % 4 = 0 ∧ year % 100 ≠ 0) ∨ year % 400 = 0 then 29 else 28
  else if month ∈ [4, 6, 9, 11] then 30
  else 31

/-- Reads a date. -/
def date? (s : List Char) : Option (List Char × List Char) := do
  let year := s.take 4
  if year.length = 4 && year.all Text.isDigit then
    let s ← char? '-' (s.drop 4)
    let (month, s) ← twoDigits? 1 12 s
    let s ← char? '-' s
    let (day, s) ← twoDigits? 1 (daysIn (Text.digitsValue year) (Text.digitsValue month)) s
    some (year ++ '-' :: month ++ '-' :: day, s)
  else none

/-- A fraction of a second in normal form: at most nine digits, no zero at the end. -/
def secondFraction (ds : List Char) : List Char :=
  let kept := ((ds.take 9).reverse.dropWhile (· = '0')).reverse
  if kept.isEmpty then [] else '.' :: kept

/-- Reads a time of the day. -/
def time? (s : List Char) : Option (List Char × List Char) := do
  let (hour, s) ← twoDigits? 0 23 s
  let s ← char? ':' s
  let (minute, s) ← twoDigits? 0 59 s
  let s ← char? ':' s
  let (second, s) ← twoDigits? 0 60 s
  let text := hour ++ ':' :: minute ++ ':' :: second
  match s with
  | '.' :: rest =>
    let ds := rest.takeWhile Text.isDigit
    if ds.isEmpty then some (text, s)
    else some (text ++ secondFraction ds, rest.dropWhile Text.isDigit)
  | s => some (text, s)

/-- Reads the offset from universal time behind a time, if there is one. -/
def offset? (s : List Char) : Option (List Char × List Char) :=
  match s with
  | c :: rest =>
    if c = 'Z' || c = 'z' then some (['Z'], rest)
    else if c = '+' || c = '-' then do
      let (hour, s) ← twoDigits? 0 23 rest
      let s ← char? ':' s
      let (minute, s) ← twoDigits? 0 59 s
      let mark := if hour ++ minute = ['0', '0', '0', '0'] then '+' else c
      some (mark :: hour ++ ':' :: minute, s)
    else some ([], c :: rest)
  | [] => some ([], [])

/-- Reads a date with the time behind it, if there is one, in normal form. -/
def dateTime? (s : List Char) : Option (Value × List Char) := do
  let (date, rest) ← date? s
  match rest with
  | c :: behind =>
    if c = 'T' || c = 't' || c = ' ' then
      match time? behind with
      | some (time, behind) =>
        let (offset, behind) ← offset? behind
        some (.datetime (String.ofList (date ++ 'T' :: time ++ offset)), behind)
      | none => some (.datetime (String.ofList date), rest)
    else some (.datetime (String.ofList date), rest)
  | [] => some (.datetime (String.ofList date), [])

/-- Whether a text opens with a date: four digits and a dash. -/
def looksLikeDate (s : List Char) : Bool :=
  (s.take 4).length = 4 && (s.take 4).all Text.isDigit && (s.drop 4).head? = some '-'

/-- Whether a text opens with a time: two digits and a colon. -/
def looksLikeTime (s : List Char) : Bool :=
  (s.take 2).length = 2 && (s.take 2).all Text.isDigit && (s.drop 2).head? = some ':'

/-- Reads a number, a date or a time. -/
def numeric? (s : List Char) : Option (Value × List Char) :=
  if looksLikeDate s then dateTime? s
  else if looksLikeTime s then
    (time? s).map fun (time, rest) ↦ (.datetime (String.ofList time), rest)
  else if looksLikeFloat s then digitFloat? s
  else
    match wordFloat? s with
    | some r => some r
    | none => integer? s

/-- Reads a boolean. -/
def boolean? : Reader Value
  | 't' :: 'r' :: 'u' :: 'e' :: rest => some (.boolean true, rest)
  | 'f' :: 'a' :: 'l' :: 's' :: 'e' :: rest => some (.boolean false, rest)
  | _ => none

end ContainerBuild.Toml
