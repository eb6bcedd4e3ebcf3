/-!
# Shortest decimals

The decimal with the fewest digits that reads back as a given binary floating-point
number, and of those the nearest. All arithmetic is on natural numbers. The two
written forms are `positional` and `scientific`.
-/

namespace ContainerBuild

/-- The decimal `digits * 10 ^ exponent`. -/
structure Decimal where
  digits : Nat
  exponent : Int
deriving DecidableEq, Repr

namespace Decimal

/-- A positive fraction with its neighbourhood: the numbers between `low` and `high`,
all over `scale`, round to `value`, and the ends do so when `closed` holds. -/
structure Neighbourhood where
  low : Nat
  value : Nat
  high : Nat
  scale : Nat
  closed : Bool
deriving DecidableEq, Repr

/-- The neighbourhood of `m * 2 ^ q`; below a power of two the next number is nearer. -/
def Neighbourhood.ofBinary (m : Nat) (q : Int) (isPower : Bool) : Neighbourhood :=
  let up := Nat.pow 2 q.toNat
  let down := Nat.pow 2 (-q).toNat
  { low := (4 * m - (if isPower then 1 else 2)) * up
    value := 4 * m * up
    high := (4 * m + 2) * up
    scale := 4 * down
    closed := m % 2 == 0 }

/-- Whether a decimal lies in a neighbourhood. -/
def Neighbourhood.holds (n : Neighbourhood) (d : Decimal) : Bool :=
  let x := d.digits * Nat.pow 10 d.exponent.toNat * n.scale
  let low := n.low * Nat.pow 10 (-d.exponent).toNat
  let high := n.high * Nat.pow 10 (-d.exponent).toNat
  if n.closed then low ≤ x && x ≤ high else low < x && x < high

/-- The number of decimal digits before the point, or minus the number of zeros behind
it: the `k` with `10 ^ (k - 1) ≤ value / scale < 10 ^ k`. -/
def Neighbourhood.magnitude (n : Neighbourhood) : Int :=
  let k : Int := (Nat.toDigits 10 n.value).length - (Nat.toDigits 10 n.scale).length
  if n.value * Nat.pow 10 (-k).toNat < n.scale * Nat.pow 10 k.toNat then k else k + 1

/-- The decimal of at most `count` digits nearest to the value from below or above, if
it lies in the neighbourhood. -/
def Neighbourhood.nearest? (n : Neighbourhood) (count : Nat) : Option Decimal :=
  let e := n.magnitude - count
  let num := n.value * Nat.pow 10 (-e).toNat
  let den := n.scale * Nat.pow 10 e.toNat
  let floor := num / den
  let below : Decimal := ⟨floor, e⟩
  let above : Decimal := ⟨floor + 1, e⟩
  let twice := 2 * (num % den)
  let belowFirst := twice < den || (twice == den && floor % 2 == 0)
  let (first, second) := if belowFirst then (below, above) else (above, below)
  if n.holds first then some first
  else if n.holds second then some second
  else none

/-- Drops the zeros at the end of the digits. -/
def dropZeros (fuel : Nat) (d : Decimal) : Decimal :=
  match fuel with
  | 0 => d
  | fuel + 1 =>
    if d.digits % 10 == 0 && d.digits != 0 then
      dropZeros fuel ⟨d.digits / 10, d.exponent + 1⟩
    else d

/-- The shortest decimal in a neighbourhood, tried from one digit to seventeen. -/
def Neighbourhood.shortest (n : Neighbourhood) : Decimal :=
  match (List.range' 1 17).findSome? n.nearest? with
  | some d => d.dropZeros 20
  | none => ⟨0, 0⟩

/-- What a floating-point number is, apart from its sign. -/
inductive Magnitude where
  | nan
  | infinite
  | finite (d : Decimal)
deriving DecidableEq, Repr

/-- The sign of a floating-point number, `true` for minus, and its shortest decimal. -/
def ofFloat (x : Float) : Bool × Magnitude :=
  let bits : Nat := x.toBits.toNat
  let negative := bits / Nat.pow 2 63 == 1
  let biased : Nat := bits / Nat.pow 2 52 % Nat.pow 2 11
  let fraction : Nat := bits % Nat.pow 2 52
  let magnitude : Magnitude :=
    if biased == 2047 then (if fraction == 0 then .infinite else .nan)
    else if biased == 0 then
      if fraction == 0 then .finite ⟨0, 0⟩
      else .finite (Neighbourhood.ofBinary fraction (-1074) false).shortest
    else
      .finite (Neighbourhood.ofBinary (Nat.pow 2 52 + fraction) (biased - 1075)
        (fraction == 0 && biased != 1)).shortest
  (negative, magnitude)

/-- Zeros. -/
def zeros (n : Nat) : List Char := List.replicate n '0'

/-- Digits with a point, at least one digit on each side of it. -/
def positional (d : Decimal) : List Char :=
  let ds := Nat.toDigits 10 d.digits
  let point : Int := ds.length + d.exponent
  if 0 ≤ d.exponent then ds ++ zeros d.exponent.toNat ++ ['.', '0']
  else if 0 < point then ds.take point.toNat ++ '.' :: ds.drop point.toNat
  else '0' :: '.' :: zeros (-point).toNat ++ ds

/-- One digit before the point, and an exponent. -/
def scientific (d : Decimal) : List Char :=
  let ds := Nat.toDigits 10 d.digits
  let e : Int := ds.length + d.exponent - 1
  let exponent := (if e < 0 then ['-'] else []) ++ Nat.toDigits 10 e.natAbs
  let lead := match ds with
    | c :: [] => [c]
    | c :: rest => c :: '.' :: rest
    | [] => []
  lead ++ 'e' :: exponent

/-- The text of a floating-point number in digits and a point only. -/
def plainText (x : Float) : String :=
  match ofFloat x with
  | (_, .nan) => "NaN.0"
  | (negative, .infinite) => (if negative then "-" else "") ++ "inf.0"
  | (negative, .finite d) => (if negative then "-" else "") ++ String.ofList d.positional

/-- The text of a finite floating-point number, with an exponent when its point would
stand more than sixteen digits to the right or five to the left of the first one. -/
def compactText (x : Float) : String :=
  match ofFloat x with
  | (negative, .finite d) =>
    let point : Int := (Nat.toDigits 10 d.digits).length + d.exponent
    let text := if d.digits == 0 || (-5 < point && point ≤ 16) then d.positional else d.scientific
    (if negative then "-" else "") ++ String.ofList text
  | _ => "null"

end Decimal

end ContainerBuild
