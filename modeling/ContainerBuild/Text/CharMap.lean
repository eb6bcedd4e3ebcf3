import ContainerBuild.Text.CodePoints

/-!
# Maps of characters

A map from characters to texts written as lines of text. A run such as `41,5A,1,61` gives
each code point from `41` to `5A` in steps of `1` the one at the same place behind `61`. A
segment such as `132:69+6A;69+6A` gives one code point after the other its text.
-/

namespace ContainerBuild.Text

/-- Characters whose images lie at one distance: every `step`-th code point from `first`
to `last`, where `first` has the image `image`. -/
structure CharRun where
  first : Nat
  last : Nat
  step : Nat
  image : Nat
deriving DecidableEq, Repr

/-- Reads a run written as four hexadecimal numbers between commas. -/
def CharRun.ofText? (s : List Char) : Option CharRun :=
  match (s.splitOn ',').map readHex with
  | [first, last, step, image] => some ⟨first, last, step, image⟩
  | _ => none

/-- The image of a code point, when a run covers it. -/
def CharRun.image? (r : CharRun) (n : Nat) : Option (List Char) :=
  if r.first ≤ n && n ≤ r.last && (n - r.first) % r.step == 0 then
    some [Char.ofNat (n - r.first + r.image)]
  else none

/-- Consecutive characters with a text for each. -/
structure CharSegment where
  first : Nat
  images : List (List Char)
deriving DecidableEq, Repr

/-- Reads a text written as hexadecimal code points between plus signs. -/
def readChars (s : List Char) : List Char :=
  (s.splitOn '+').map fun code ↦ Char.ofNat (readHex code)

/-- Reads a segment. -/
def CharSegment.ofText? (s : List Char) : Option CharSegment :=
  match s.splitOn ':' with
  | [first, images] => some ⟨readHex first, (images.splitOn ';').map readChars⟩
  | _ => none

/-- The image of a code point, when a segment covers it. -/
def CharSegment.image? (g : CharSegment) (n : Nat) : Option (List Char) :=
  if g.first ≤ n then g.images[n - g.first]? else none

/-- The characters of a segment with their images. -/
def CharSegment.entries (g : CharSegment) : List (Char × List Char) :=
  g.images.zipIdx.map fun (image, i) ↦ (Char.ofNat (g.first + i), image)

/-- A map from characters to texts. -/
structure CharMap where
  runs : List CharRun
  segments : List CharSegment
deriving DecidableEq, Repr

namespace CharMap

/-- Reads a map from the lines of its runs and of its segments. -/
def ofLines (runs segments : List String) : CharMap where
  runs := (entriesOf runs).filterMap CharRun.ofText?
  segments := (entriesOf segments).filterMap CharSegment.ofText?

/-- The image of a character, if it has one. -/
def image? (m : CharMap) (c : Char) : Option (List Char) :=
  (m.runs.findSome? (·.image? c.toNat)).or (m.segments.findSome? (·.image? c.toNat))

end CharMap

end ContainerBuild.Text
