import ContainerBuild.Text.Composition

/-!
# Composed form

The form of a text in which marks stand in a fixed order and every character that can be
composed is composed: all characters are first taken apart, then each run of marks is put
in order, and then the characters are put together from left to right.
-/

namespace ContainerBuild.Text

/-! ## Hangul -/

/-- The first leading consonant. -/
def leadBase : Nat := 0x1100

/-- The first vowel. -/
def vowelBase : Nat := 0x1161

/-- The place before the first trailing consonant. -/
def trailBase : Nat := 0x11A7

/-- The first syllable. -/
def syllableBase : Nat := 0xAC00

/-- The number of leading consonants. -/
def leadCount : Nat := 19

/-- The number of vowels. -/
def vowelCount : Nat := 21

/-- The number of trailing consonants, where having none counts as one. -/
def trailCount : Nat := 28

/-- The number of syllables. -/
def syllableCount : Nat := leadCount * vowelCount * trailCount

/-- The letters of a syllable. -/
def syllableLetters? (c : Char) : Option (List Char) :=
  if syllableBase ≤ c.toNat && c.toNat < syllableBase + syllableCount then
    let i := c.toNat - syllableBase
    let opening := [Char.ofNat (leadBase + i / (vowelCount * trailCount)),
      Char.ofNat (vowelBase + i % (vowelCount * trailCount) / trailCount)]
    some (if i % trailCount = 0 then opening
      else opening ++ [Char.ofNat (trailBase + i % trailCount)])
  else none

/-- Whether a number is at least a base and less than a count above it. -/
def isWithin (base count n : Nat) : Bool := base ≤ n && n < base + count

/-- The syllable of two letters, or of a syllable without a trailing consonant and one. -/
def syllable? (a b : Char) : Option Char :=
  if isWithin leadBase leadCount a.toNat && isWithin vowelBase vowelCount b.toNat then
    some (Char.ofNat (syllableBase +
      ((a.toNat - leadBase) * vowelCount + (b.toNat - vowelBase)) * trailCount))
  else if isWithin syllableBase syllableCount a.toNat &&
      (a.toNat - syllableBase) % trailCount = 0 &&
      isWithin (trailBase + 1) (trailCount - 1) b.toNat then
    some (Char.ofNat (a.toNat + (b.toNat - trailBase)))
  else none

/-! ## Taking apart -/

/-- The largest number of times that a character can be taken apart. -/
def compositionDepth : Nat := 4

/-- The characters that a character is made of, taken apart a number of times. -/
def takeApart (depth : Nat) (c : Char) : List Char :=
  if c.toNat < 0x80 then [c]
  else
    match syllableLetters? c with
    | some letters => letters
    | none =>
      match depth, compositions.image? c with
      | depth + 1, some (first :: marks) => takeApart depth first ++ marks
      | _, _ => [c]

/-! ## Ordering marks -/

/-- Puts a character before others. It passes over characters of a lower class, unless it
has class zero. -/
def placeMark (c : Char) : List Char → List Char
  | [] => [c]
  | d :: rest =>
    if markClass d ≠ 0 && markClass d < markClass c then d :: placeMark c rest
    else c :: d :: rest

/-- Puts each run of marks in the order of their classes; marks of one class keep theirs. -/
def orderMarks : List Char → List Char
  | [] => []
  | c :: rest => placeMark c (orderMarks rest)

/-! ## Putting together -/

/-- The composed characters with their parts. -/
def compositionEntries : List (Char × List Char) :=
  compositions.segments.flatMap CharSegment.entries

/-- The character that two others compose. -/
def composed? (a b : Char) : Option Char :=
  match syllable? a b with
  | some c => some c
  | none => (compositionEntries.find? fun (_, parts) ↦ parts = [a, b]).map Prod.fst

/-- Whether a character can be composed with an earlier one, given what stands between. -/
def isFree (between : List Char) (c : Char) : Bool :=
  (between.getLast?).all fun m ↦ markClass m < markClass c

/-- Puts characters together behind a character that marks may still join, and the marks
that stay behind it. -/
def putTogether (base : Char) (between : List Char) : List Char → List Char
  | [] => base :: between
  | c :: rest =>
    match if isFree between c then composed? base c else none with
    | some whole => putTogether whole between rest
    | none =>
      if markClass c = 0 then base :: between ++ putTogether c [] rest
      else putTogether base (between ++ [c]) rest

/-- Puts characters together. -/
def compose : List Char → List Char
  | [] => []
  | c :: rest => if markClass c = 0 then putTogether c [] rest else c :: compose rest

/-- The composed form of a text. -/
def canonical (s : List Char) : List Char :=
  if s.all fun c ↦ c.toNat < 0x300 then s
  else compose (orderMarks (s.flatMap (takeApart compositionDepth)))

end ContainerBuild.Text
