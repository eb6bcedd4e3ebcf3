/-!
# Blank characters

The characters with the Unicode property White_Space, and the operations that
depend on them: trimming, splitting into words, and asking whether a text is
blank. All work on character lists; the `String` forms wrap them.
-/

namespace ContainerBuild.Text

/-- A blank has the Unicode property White_Space. -/
def isBlank (c : Char) : Bool :=
  let n := c.toNat
  (0x09 ≤ n && n ≤ 0x0D) || n == 0x20 || n == 0x85 || n == 0xA0 || n == 0x1680 ||
    (0x2000 ≤ n && n ≤ 0x200A) || n == 0x2028 || n == 0x2029 || n == 0x202F ||
    n == 0x205F || n == 0x3000

/-- Drops the characters at the end that satisfy `p`. -/
def dropEndWhile (p : Char → Bool) (s : List Char) : List Char :=
  (s.reverse.dropWhile p).reverse

/-- Drops the blanks at both ends of a character list. -/
def trimChars (s : List Char) : List Char :=
  dropEndWhile isBlank (s.dropWhile isBlank)

/-- Drops the blanks at both ends. -/
def trim (s : String) : String := String.ofList (trimChars s.toList)

/-- The maximal runs of non-blank characters, in order. -/
def words (s : List Char) : List (List Char) :=
  (s.splitOnP isBlank).filter (fun w ↦ !w.isEmpty)

/-- The trimmed text, unless nothing is left of it. -/
def nonBlank? (s : String) : Option String :=
  let t := trim s
  if t = "" then none else some t

/-- A visible ASCII character is no blank. -/
theorem isBlank_of_visible {c : Char} (hlow : 0x20 < c.toNat) (hhigh : c.toNat < 0x7F) :
    isBlank c = false := by
  simp only [isBlank, Bool.or_eq_false_iff, Bool.and_eq_false_iff, decide_eq_false_iff_not,
    beq_eq_false_iff_ne]
  omega

/-- A text has no blanks when a check of its characters finds none. -/
theorem isBlank_of_all {s : List Char} (h : s.all (!isBlank ·) = true) :
    ∀ c ∈ s, isBlank c = false := by
  simpa using h

/-- Trimming leaves an empty text empty. -/
@[simp] theorem trimChars_nil : trimChars [] = [] := rfl

end ContainerBuild.Text
