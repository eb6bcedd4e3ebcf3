import ContainerBuild.Dict
import ContainerBuild.Text.Bytes
import ContainerBuild.Text.Decimal
import ContainerBuild.Text.Split

/-!
# Templates

A template is literal text with references to parameters: `$NAME`, or a name in
braces, perhaps with a default. A backslash before a dollar keeps the dollar. Read as
tokens, which depends on the template alone, a template says what is to be written with
the parameters in place; what is put in is not read again.
-/

namespace ContainerBuild

/-- Why a text is no template. -/
inductive TemplateError where
  /-- A reference in braces that is never closed, at a position in UTF-8 bytes. -/
  | unclosed (position : Nat)
  | invalidName (name : String)
deriving DecidableEq, Repr

/-- The wording of a template error. -/
def TemplateError.message : TemplateError → String
  | .unclosed position => "unclosed placeholder at position " ++ Text.decimal position
  | .invalidName name => "invalid placeholder name '" ++ name ++ "'"

namespace Template

open Text (byteLength)

/-- A part of a template. -/
inductive Token where
  /-- A character that stands for itself, a backslash before anything but a dollar and
  a dollar that opens no reference included. -/
  | literal (c : Char)
  /-- A backslash and a dollar, which stay as they are. -/
  | escapedDollar
  /-- A reference `$NAME`. -/
  | bare (name : List Char)
  /-- A reference in braces, with its default if one is given. -/
  | braced (name : List Char) (fallback : Option (List Char))
deriving DecidableEq, Repr

/-- Whether a character may open a name. -/
def isNameStart (c : Char) : Bool :=
  c = '_' || ('a' ≤ c && c ≤ 'z') || ('A' ≤ c && c ≤ 'Z')

/-- Whether a character may stand inside a name. -/
def isNameChar (c : Char) : Bool := isNameStart c || Text.isDigit c

/-- Whether a text is a name: a letter or underscore, then letters, digits and
underscores. -/
def isName : List Char → Bool
  | [] => false
  | c :: rest => isNameStart c && rest.all isNameChar

/-- What stands before and behind the first closing brace. -/
def cutBrace : List Char → Option (List Char × List Char) := Text.cutAt '}'

/-- The name and the default of a reference in braces. -/
def bracedParts (body : List Char) : List Char × Option (List Char) :=
  match Text.cutAtText [':', '-'] body with
  | some (name, fallback) => (name, some fallback)
  | none => (body, none)

/-- What stands behind the first closing brace is shorter than the text. -/
theorem length_lt_of_cutBrace {s body behind : List Char} (h : cutBrace s = some (body, behind)) :
    behind.length < s.length := by
  have := Text.eq_append_of_cutAt h
  simp [this]
  omega

/-- Reads the tokens of a template from a byte position on. -/
def tokens (position : Nat) : List Char → Except TemplateError (List Token)
  | [] => .ok []
  | '\\' :: '$' :: rest => (tokens (position + 2) rest).map (.escapedDollar :: ·)
  | '$' :: '{' :: rest =>
    match h : cutBrace rest with
    | none => .error (.unclosed position)
    | some (body, behind) =>
      have := length_lt_of_cutBrace h
      let (name, fallback) := bracedParts body
      if isName name then
        (tokens (position + byteLength body + 3) behind).map (.braced name fallback :: ·)
      else .error (.invalidName (String.ofList name))
  | '$' :: c :: rest =>
    if isNameStart c then
      let name := c :: rest.takeWhile isNameChar
      have : (rest.dropWhile isNameChar).length < rest.length + 1 + 1 := by
        have := (List.dropWhile_suffix (l := rest) isNameChar).length_le
        omega
      (tokens (position + 1 + byteLength name) (rest.dropWhile isNameChar)).map (.bare name :: ·)
    else (tokens (position + 1) (c :: rest)).map (.literal '$' :: ·)
  | c :: rest => (tokens (position + c.utf8Size) rest).map (.literal c :: ·)
termination_by s => s.length

/-! ### The first token of a text -/

variable {position : Nat} {c : Char} {rest body behind name : List Char}

/-- Whether a character may open more than itself. -/
def isMarker (c : Char) : Bool := c = '$' || c = '\\'

section

-- The equations of the reader serve the lemmas of this section, and these serve all others.
attribute [local simp] tokens

/-- No token is left at the end. -/
theorem tokens_nil (position : Nat) : tokens position [] = .ok [] := by
  simp

/-- A character that is no marker stands for itself. -/
theorem tokens_plain (h : isMarker c = false) :
    tokens position (c :: rest) = (tokens (position + c.utf8Size) rest).map (.literal c :: ·) := by
  simp only [isMarker, Bool.or_eq_false_iff, decide_eq_false_iff_not] at h
  rw [tokens]
  all_goals simp_all

/-- A backslash before a dollar escapes it. -/
theorem tokens_escaped :
    tokens position ('\\' :: '$' :: rest) =
      (tokens (position + 2) rest).map (.escapedDollar :: ·) := by
  simp

/-- A backslash before anything else stands for itself. -/
theorem tokens_backslash (h : rest.head? ≠ some '$') :
    tokens position ('\\' :: rest) = (tokens (position + 1) rest).map (.literal '\\' :: ·) := by
  rw [tokens]
  · rfl
  · rintro behind - rfl
    exact h rfl
  · simp
  · simp

/-- A brace behind a dollar has to be closed. -/
theorem tokens_unclosed (h : cutBrace rest = none) :
    tokens position ('$' :: '{' :: rest) = .error (.unclosed position) := by
  rw [tokens]
  split
  · rfl
  · next h' => rw [h] at h'; cases h'

/-- Braces behind a dollar have to hold a name, perhaps with a default. -/
theorem tokens_braced (h : cutBrace rest = some (body, behind)) :
    tokens position ('$' :: '{' :: rest) =
      if isName (bracedParts body).1 then
        (tokens (position + byteLength body + 3) behind).map
          (.braced (bracedParts body).1 (bracedParts body).2 :: ·)
      else .error (.invalidName (String.ofList (bracedParts body).1)) := by
  rw [tokens]
  split
  · next h' => rw [h] at h'; cases h'
  · next h' =>
    rw [h] at h'
    cases h'
    rfl

/-- A name behind a dollar goes on as far as it can. -/
theorem tokens_bare (hc : isNameStart c = true) :
    tokens position ('$' :: c :: rest) =
      (tokens (position + 1 + byteLength (c :: rest.takeWhile isNameChar))
        (rest.dropWhile isNameChar)).map (.bare (c :: rest.takeWhile isNameChar) :: ·) := by
  rw [tokens]
  · rw [if_pos hc]
  · rintro rfl
    cases hc

/-- A dollar before anything else stands for itself. -/
theorem tokens_dollar (h : ∀ c ∈ rest.head?, c ≠ '{' ∧ isNameStart c = false) :
    tokens position ('$' :: rest) = (tokens (position + 1) rest).map (.literal '$' :: ·) := by
  cases rest with
  | nil =>
    rw [tokens_nil, tokens, tokens_nil]
    all_goals simp
  | cons c rest =>
    obtain ⟨hbrace, hc⟩ := h c rfl
    rw [tokens]
    · rw [if_neg (Bool.not_eq_true _ ▸ hc)]
    · simpa using hbrace

end

/-- A token as it is written in a template. -/
def Token.written : Token → List Char
  | .literal c => [c]
  | .escapedDollar => ['\\', '$']
  | .bare name => '$' :: name
  | .braced name none => '$' :: '{' :: name ++ ['}']
  | .braced name (some fallback) => '$' :: '{' :: name ++ [':', '-'] ++ fallback ++ ['}']

/-- A reference in braces is written as the text between them. -/
theorem written_bracedParts (body : List Char) :
    (Token.braced (bracedParts body).1 (bracedParts body).2).written =
      '$' :: '{' :: body ++ ['}'] := by
  rw [bracedParts]
  cases h : Text.cutAtText [':', '-'] body with
  | none => rfl
  | some parts =>
    rw [Text.eq_append_of_cutAtText h]
    simp [Token.written]

/-- The value of a parameter. -/
def value? (params : Dict String) (name : List Char) : Option (List Char) :=
  (params.get? (String.ofList name)).map String.toList

/-- A token with the parameters put in. A reference without a value takes its default,
and stays as written when it has none. -/
def Token.fill (params : Dict String) : Token → List Char
  | .bare name => (value? params name).getD (Token.bare name).written
  | .braced name none => (value? params name).getD (Token.braced name none).written
  | .braced name (some fallback) => (value? params name).getD fallback
  | token => token.written

end Template

end ContainerBuild
