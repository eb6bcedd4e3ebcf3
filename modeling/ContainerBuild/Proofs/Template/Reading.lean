import ContainerBuild.Template.Expand
import Mathlib.Data.List.Forall2

/-!
# The reading of a template

Every template, a malformed one included, has one reading from its front to its end, given here
by what a token may be and by what may follow it. A template is malformed when a dollar that opens
no reference stands before a brace. Otherwise putting in the parameters writes the tokens of the
reading one after the other: a reference as the value of its parameter or its default, and
everything else as it is written.
-/

namespace ContainerBuild.Template

/-- A letter or an underscore, with which a name begins. -/
def BeginsName (c : Char) : Prop := 'a' ≤ c ∧ c ≤ 'z' ∨ 'A' ≤ c ∧ c ≤ 'Z' ∨ c = '_'

/-- A letter, an underscore or a digit, with which a name goes on. -/
def ContinuesName (c : Char) : Prop := BeginsName c ∨ '0' ≤ c ∧ c ≤ '9'

instance : DecidablePred BeginsName := fun _ ↦ instDecidableOr

instance : DecidablePred ContinuesName := fun _ ↦ instDecidableOr

/-- A name of a parameter. -/
def IsName (name : List Char) : Prop :=
  ∃ c tail, name = c :: tail ∧ BeginsName c ∧ ∀ x ∈ tail, ContinuesName x

/-- A reference as it may be written: a dollar and a name, or a name in braces, perhaps with a
default, of which the first closing brace is the last character. -/
inductive IsReference : Token → Prop where
  | bare {name : List Char} (hname : IsName name) : IsReference (.bare name)
  | braced {name : List Char} {fallback : Option (List Char)} (hname : IsName name)
    (hfallback : ∀ text ∈ fallback, '}' ∉ text) : IsReference (.braced name fallback)

/-- Which token a text begins with, and what may stand behind it. -/
inductive Opens : Token → List Char → Prop where
  | plain {c : Char} {rest : List Char} (hdollar : c ≠ '$') (hbackslash : c ≠ '\\') :
    Opens (.literal c) rest
  | escapedDollar {rest : List Char} : Opens .escapedDollar rest
  | backslash {rest : List Char} (hrest : rest.head? ≠ some '$') : Opens (.literal '\\') rest
  /-- A name is read as far as it goes. -/
  | bare {name rest : List Char} (h : IsReference (.bare name))
    (hrest : ∀ c ∈ rest.head?, ¬ContinuesName c) : Opens (.bare name) rest
  | braced {name rest : List Char} {fallback : Option (List Char)}
    (h : IsReference (.braced name fallback)) : Opens (.braced name fallback) rest
  /-- A dollar stands for itself where no reference is written. -/
  | dollar {rest : List Char}
    (h : ∀ token, IsReference token → ¬ token.written <+: '$' :: rest) : Opens (.literal '$') rest

/-- How a template is read from its front to its end. -/
inductive Reads : List Char → List Token → Prop where
  | nil : Reads [] []
  | cons {token : Token} {rest : List Char} {ts : List Token} (h : Opens token rest)
    (hrest : Reads rest ts) : Reads (token.written ++ rest) (token :: ts)

/-- What a token stands for. A reference stands for the value of its parameter; when there is none,
for its default if it has one, and otherwise for itself, as all other tokens do. -/
inductive Stands (params : Dict String) : Token → List Char → Prop where
  | literal {c : Char} : Stands params (.literal c) [c]
  | escapedDollar : Stands params .escapedDollar ['\\', '$']
  | bare {name : List Char} {value : String}
    (h : params.get? (String.ofList name) = some value) : Stands params (.bare name) value.toList
  | bareKept {name : List Char} (h : params.get? (String.ofList name) = none) :
    Stands params (.bare name) ('$' :: name)
  | braced {name : List Char} {fallback : Option (List Char)} {value : String}
    (h : params.get? (String.ofList name) = some value) :
    Stands params (.braced name fallback) value.toList
  | byDefault {name fallback : List Char} (h : params.get? (String.ofList name) = none) :
    Stands params (.braced name (some fallback)) fallback
  | bracedKept {name : List Char} (h : params.get? (String.ofList name) = none) :
    Stands params (.braced name none) ('$' :: '\x7b' :: name ++ ['}'])

/-- Whether every brace behind a dollar belongs to a reference. -/
def IsWellFormed (ts : List Token) : Prop :=
  ¬ [Token.literal '$', Token.literal '\x7b'] <:+: ts

variable {token token' : Token} {ts us : List Token} {c : Char}
  {name name' body s rest rest' : List Char} {fallback fallback' : Option (List Char)}

/-- A token is written as something. -/
theorem Token.written_ne_nil (token : Token) : token.written ≠ [] := by
  cases token with
  | braced name fallback => cases fallback <;> exact List.cons_ne_nil _ _
  | _ => exact List.cons_ne_nil _ _

/-! ### Names and braces -/

/-- The characters that a name may begin with. -/
theorem isNameStart_iff : isNameStart c = true ↔ BeginsName c := by
  simp only [isNameStart, BeginsName, Bool.or_eq_true, Bool.and_eq_true, decide_eq_true_eq,
    or_assoc]
  exact or_rotate

/-- The characters that a name may go on with. -/
theorem isNameChar_iff : isNameChar c = true ↔ ContinuesName c := by
  rw [isNameChar, Bool.or_eq_true, isNameStart_iff, ContinuesName, Text.isDigit, Bool.and_eq_true,
    decide_eq_true_eq, decide_eq_true_eq]

/-- All characters but a dollar and a backslash stand for themselves. -/
theorem isMarker_eq_false_iff : isMarker c = false ↔ c ≠ '$' ∧ c ≠ '\\' := by
  simp [isMarker]

/-- The names that are read. -/
theorem isName_iff : isName name = true ↔ IsName name := by
  cases name with
  | nil => simp [isName, IsName]
  | cons c tail =>
    simp only [isName, IsName, Bool.and_eq_true, List.all_eq_true, isNameStart_iff, isNameChar_iff]
    constructor
    · exact fun h ↦ ⟨c, tail, rfl, h⟩
    · rintro ⟨_, _, heq, h⟩
      cases heq
      exact h

/-- All characters of a name may stand inside one. -/
theorem isNameChar_of_mem (hname : IsName name) (hc : c ∈ name) : isNameChar c = true := by
  obtain ⟨start, tail, rfl, hstart, htail⟩ := hname
  rw [isNameChar_iff]
  rcases List.mem_cons.mp hc with rfl | hc
  · exact .inl hstart
  · exact htail c hc

/-- A character that may not stand inside a name is not in one. -/
theorem not_mem_name (hname : IsName name) (hc : isNameChar c = false) : c ∉ name :=
  fun hmem ↦ by
    rw [isNameChar_of_mem hname hmem] at hc
    cases hc

/-- A name that does not go on ends where name characters end. -/
theorem takeWhile_name (hname : IsName name) (hrest : ∀ c ∈ rest.head?, ¬ContinuesName c) :
    (name ++ rest).takeWhile isNameChar = name ∧ (name ++ rest).dropWhile isNameChar = rest := by
  have hall : ∀ c ∈ name, isNameChar c = true := fun c ↦ isNameChar_of_mem hname
  rw [List.takeWhile_append_of_pos hall, List.dropWhile_append_of_pos hall]
  cases rest with
  | nil => simp
  | cons c rest => simp [mt isNameChar_iff.mp (hrest c rfl)]

/-- Between its braces, a reference has no other brace that closes. -/
theorem IsReference.exists_body (h : IsReference (.braced name fallback)) :
    ∃ body, '}' ∉ body ∧ bracedParts body = (name, fallback) ∧
      (Token.braced name fallback).written = '$' :: '\x7b' :: body ++ ['}'] := by
  cases h with
  | braced hname hfallback =>
  have hclose : '}' ∉ name := not_mem_name hname rfl
  have hcolon : ':' ∉ name := not_mem_name hname rfl
  cases fallback with
  | none => exact ⟨name, hclose, by rw [bracedParts, Text.cutAtText_eq_none hcolon], rfl⟩
  | some text =>
    refine ⟨name ++ [':', '-'] ++ text, ?_, ?_, by simp [Token.written]⟩
    · simp [hclose, hfallback text rfl]
    · rw [bracedParts, Text.cutAtText_append hcolon]

/-- A text without a brace that closes is the inside of a reference if it has a name. -/
theorem isReference_bracedParts (hbody : '}' ∉ body) (hname : isName (bracedParts body).1 = true) :
    IsReference (.braced (bracedParts body).1 (bracedParts body).2) := by
  refine .braced (isName_iff.mp hname) fun text hfallback hmem ↦ hbody ?_
  rw [bracedParts] at hfallback
  split at hfallback
  · next hcut =>
    cases hfallback
    rw [Text.eq_append_of_cutAtText hcut]
    exact List.mem_append_right _ hmem
  · cases hfallback

private theorem IsReference.cutBrace_eq (h : IsReference (.braced name fallback))
    (hs : '$' :: '\x7b' :: s = (Token.braced name fallback).written ++ rest) :
    ∃ body, cutBrace s = some (body, rest) ∧ bracedParts body = (name, fallback) := by
  obtain ⟨body, hbody, hparts, hwritten⟩ := h.exists_body
  rw [hwritten] at hs
  obtain rfl : s = body ++ '}' :: rest := by simpa using hs
  exact ⟨body, Text.cutAt_append hbody rest, hparts⟩

/-! ### One reading -/

/-- A text that is not empty begins with a token. -/
theorem exists_opens (c : Char) (s : List Char) :
    ∃ token rest, Opens token rest ∧ c :: s = token.written ++ rest := by
  by_cases hdollar : c = '$'
  · subst hdollar
    by_cases href : ∃ token, IsReference token ∧ token.written <+: '$' :: s
    · obtain ⟨token, h, rest, hs⟩ := href
      cases h with
      | braced hname hfallback => exact ⟨_, rest, .braced (.braced hname hfallback), hs.symm⟩
      | bare hname =>
        -- the name is read on, as far as it goes
        obtain ⟨c, tail, rfl, hc, -⟩ := hname
        obtain rfl : c :: (tail ++ rest) = s := by simpa [Token.written] using hs
        refine ⟨.bare (c :: (tail ++ rest).takeWhile isNameChar),
          (tail ++ rest).dropWhile isNameChar, .bare (.bare ?_) ?_, ?_⟩
        · refine ⟨c, _, rfl, hc, fun x hx ↦ isNameChar_iff.mp ?_⟩
          exact List.all_eq_true.mp List.all_takeWhile x hx
        · intro x hx
          rw [← isNameChar_iff]
          have := List.head?_dropWhile_not isNameChar (tail ++ rest)
          rw [Option.mem_def.mp hx] at this
          simpa using this
        · simp [Token.written]
    · exact ⟨_, s, .dollar fun token h hpre ↦ href ⟨token, h, hpre⟩, rfl⟩
  by_cases hbackslash : c = '\\'
  · subst hbackslash
    by_cases hs : s.head? = some '$'
    · obtain ⟨rest, rfl⟩ := List.head?_eq_some_iff.mp hs
      exact ⟨_, rest, .escapedDollar, rfl⟩
    · exact ⟨_, s, .backslash hs, rfl⟩
  · exact ⟨_, s, .plain hdollar hbackslash, rfl⟩

/-- Every template has a reading. -/
theorem exists_reads (s : List Char) : ∃ ts, Reads s ts := by
  cases s with
  | nil => exact ⟨[], .nil⟩
  | cons c s =>
    obtain ⟨token, rest, h, hs⟩ := exists_opens c s
    have hlt : rest.length < (c :: s).length := by
      have hpos := List.length_pos_iff.mpr token.written_ne_nil
      rw [hs, List.length_append]
      omega
    obtain ⟨ts, hrest⟩ := exists_reads rest
    exact ⟨token :: ts, hs ▸ .cons h hrest⟩
termination_by s.length
decreasing_by exact hlt

private theorem Opens.of_dollar (h : Opens token rest) (hs : token.written ++ rest = '$' :: s) :
    IsReference token ∨ token = .literal '$' ∧ rest = s ∧
      ∀ token, IsReference token → ¬ token.written <+: '$' :: s := by
  cases h with
  | plain hdollar => cases hs; exact absurd rfl hdollar
  | escapedDollar => cases hs
  | backslash => cases hs
  | bare h => exact .inl h
  | braced h => exact .inl h
  | dollar h => cases hs; exact .inr ⟨rfl, rfl, h⟩

/-- A character that is no marker stands for itself. -/
theorem Opens.eq_of_plain (h : Opens token rest) (hs : token.written ++ rest = c :: s)
    (hc : isMarker c = false) : token = .literal c ∧ rest = s := by
  cases h with
  | plain => cases hs; exact ⟨rfl, rfl⟩
  | escapedDollar => cases hs; cases hc
  | backslash => cases hs; cases hc
  | bare h => cases hs; cases hc
  | @braced _ _ fallback h => cases fallback <;> (cases hs; cases hc)
  | dollar h => cases hs; cases hc

private theorem Opens.eq_of_backslash (h : Opens token rest)
    (hs : token.written ++ rest = '\\' :: s) :
    token = .escapedDollar ∧ s = '$' :: rest ∨
      token = .literal '\\' ∧ rest = s ∧ s.head? ≠ some '$' := by
  cases h with
  | plain _ hbackslash => cases hs; exact absurd rfl hbackslash
  | escapedDollar => cases hs; exact .inl ⟨rfl, rfl⟩
  | backslash hrest => cases hs; exact .inr ⟨rfl, rfl, hrest⟩
  | bare h => cases hs
  | @braced _ _ fallback h => cases fallback <;> cases hs
  | dollar h => cases hs

private theorem IsReference.bare_ne_braced (h : IsReference (.bare name)) :
    (Token.bare name).written ++ rest ≠ (Token.braced name' fallback).written ++ rest' := by
  intro heq
  cases h with
  | bare hname =>
  obtain ⟨c, tail, rfl, hc, -⟩ := hname
  have hbrace : c = '\x7b' := by
    cases fallback <;> exact (List.cons.inj (List.cons.inj heq).2).1
  rw [hbrace] at hc
  exact absurd hc (by decide)

private theorem Opens.bare_unique (h : Opens (.bare name) rest) (h' : Opens (.bare name') rest')
    (heq : name ++ rest = name' ++ rest') : name = name' ∧ rest = rest' := by
  cases h with
  | bare h hrest =>
  cases h' with
  | bare h' hrest' =>
  cases h with
  | bare hname =>
  cases h' with
  | bare hname' =>
  have hread := takeWhile_name hname hrest
  rw [heq, (takeWhile_name hname' hrest').1, (takeWhile_name hname' hrest').2] at hread
  exact ⟨hread.1.symm, hread.2.symm⟩

private theorem IsReference.braced_unique (h : IsReference (.braced name fallback))
    (h' : IsReference (.braced name' fallback'))
    (heq : (Token.braced name fallback).written ++ rest =
      (Token.braced name' fallback').written ++ rest') :
    name = name' ∧ fallback = fallback' ∧ rest = rest' := by
  obtain ⟨body, hbody, hparts, hwritten⟩ := h.exists_body
  have hs : '$' :: '\x7b' :: (body ++ '}' :: rest) =
      (Token.braced name' fallback').written ++ rest' := by
    rw [← heq, hwritten]
    simp
  obtain ⟨body', hcut, hparts'⟩ := h'.cutBrace_eq hs
  rw [cutBrace, Text.cutAt_append hbody] at hcut
  cases hcut
  rw [hparts] at hparts'
  cases hparts'
  exact ⟨rfl, rfl, rfl⟩

/-- What a text begins with is determined, and so is what stands behind it. -/
theorem Opens.unique (h : Opens token rest) (h' : Opens token' rest')
    (heq : token.written ++ rest = token'.written ++ rest') : token = token' ∧ rest = rest' := by
  cases h with
  | plain hdollar hbackslash =>
    have hplain := isMarker_eq_false_iff.mpr ⟨hdollar, hbackslash⟩
    obtain ⟨rfl, rfl⟩ := h'.eq_of_plain heq.symm hplain
    exact ⟨rfl, rfl⟩
  | escapedDollar =>
    obtain ⟨rfl, hs⟩ | ⟨rfl, rfl, hhead⟩ := h'.eq_of_backslash heq.symm
    · exact ⟨rfl, (List.cons.inj hs).2⟩
    · exact absurd rfl hhead
  | backslash hrest =>
    obtain ⟨rfl, rfl⟩ | ⟨rfl, rfl, -⟩ := h'.eq_of_backslash heq.symm
    · exact absurd rfl hrest
    · exact ⟨rfl, rfl⟩
  | dollar h =>
    obtain href | ⟨rfl, rfl, -⟩ := h'.of_dollar heq.symm
    · exact absurd ⟨rest', heq.symm⟩ (h _ href)
    · exact ⟨rfl, rfl⟩
  | bare h hrest =>
    obtain href | ⟨-, -, hnone⟩ := h'.of_dollar heq.symm
    · cases href with
      | bare =>
        obtain ⟨rfl, rfl⟩ := Opens.bare_unique (.bare h hrest) h' (List.cons.inj heq).2
        exact ⟨rfl, rfl⟩
      | braced => exact absurd heq h.bare_ne_braced
    · exact absurd ⟨rest, rfl⟩ (hnone _ h)
  | @braced name rest fallback h =>
    obtain ⟨body, -, -, hwritten⟩ := h.exists_body
    have hs : token'.written ++ rest' = '$' :: '\x7b' :: (body ++ '}' :: rest) := by
      rw [← heq, hwritten]
      simp
    obtain href | ⟨-, -, hnone⟩ := h'.of_dollar hs
    · cases href with
      | bare hname => exact absurd heq.symm (IsReference.bare hname).bare_ne_braced
      | braced hname hfallback =>
        obtain ⟨rfl, rfl, rfl⟩ := h.braced_unique (.braced hname hfallback) heq
        exact ⟨rfl, rfl⟩
    · exact absurd ⟨rest, heq.trans hs⟩ (hnone _ h)

/-- A template has one reading. -/
theorem Reads.unique (h : Reads s ts) (h' : Reads s us) : us = ts := by
  induction h generalizing us with
  | nil =>
    generalize hs : ([] : List Char) = s at h'
    cases h' with
    | nil => rfl
    | @cons token rest us ho => simp [token.written_ne_nil] at hs
  | @cons token rest ts ho hrest ih =>
    generalize hs : token.written ++ rest = s at h'
    cases h' with
    | nil => simp [token.written_ne_nil] at hs
    | cons ho' hrest' =>
      obtain ⟨rfl, rfl⟩ := ho.unique ho' hs
      rw [ih hrest']

private theorem Reads.written (h : Reads s ts) : ts.flatMap Token.written = s := by
  induction h with
  | nil => rfl
  | cons ho hrest ih => rw [List.flatMap_cons, ih]

/-! ### The reading and the tokens -/

private theorem isWellFormed_cons : IsWellFormed (token :: ts) ↔
    ¬ (token = .literal '$' ∧ ts.head? = some (.literal '\x7b')) ∧ IsWellFormed ts := by
  have hhead : [Token.literal '\x7b'] <+: ts ↔ ts.head? = some (.literal '\x7b') := by
    cases ts with
    | nil => simp
    | cons token ts => simp [@eq_comm _ token]
  rw [IsWellFormed, IsWellFormed, List.infix_cons_iff, not_or, List.cons_prefix_cons, hhead,
    @eq_comm _ token]

private theorem Reads.head_eq_brace_iff (h : Reads s ts) :
    s.head? = some '\x7b' ↔ ts.head? = some (.literal '\x7b') := by
  cases h with
  | nil => simp
  | @cons token rest ts ho hrest =>
    rw [List.head?_cons]
    constructor
    · intro hs
      obtain ⟨s, hs⟩ := List.head?_eq_some_iff.mp hs
      rw [(ho.eq_of_plain hs rfl).1]
    · intro htoken
      cases htoken
      rfl

/-- Behind a dollar that opens no reference stands no first character of a name. -/
theorem isNameStart_of_dollar (h : ∀ token, IsReference token → ¬ token.written <+: '$' :: rest) :
    ∀ c ∈ rest.head?, isNameStart c = false := by
  intro c hc
  obtain ⟨tail, rfl⟩ := List.head?_eq_some_iff.mp hc
  cases hstart : isNameStart c with
  | false => rfl
  | true =>
    have hname : IsName [c] := ⟨c, [], rfl, isNameStart_iff.mp hstart, List.forall_mem_nil _⟩
    exact absurd ⟨tail, rfl⟩ (h _ (.bare hname))

/-- The first token of a text is read first, unless a brace follows a dollar that opens no
reference. -/
theorem Opens.tokens_eq (h : Opens token rest)
    (hbrace : ¬ (token = .literal '$' ∧ rest.head? = some '\x7b')) (position : Nat) :
    tokens position (token.written ++ rest) =
      (tokens (position + Text.byteLength token.written) rest).map (token :: ·) := by
  cases h with
  | plain hdollar hbackslash =>
    exact tokens_plain (isMarker_eq_false_iff.mpr ⟨hdollar, hbackslash⟩)
  | escapedDollar => exact tokens_escaped
  | backslash hrest => exact tokens_backslash hrest
  | bare h hrest =>
    cases h with
    | bare hname =>
    obtain ⟨htake, hdrop⟩ := takeWhile_name hname hrest
    obtain ⟨c, tail, rfl, hc, -⟩ := hname
    have hchar : isNameChar c = true := isNameChar_iff.mpr (.inl hc)
    rw [List.cons_append, List.takeWhile_cons_of_pos hchar, List.cons.injEq] at htake
    rw [List.cons_append, List.dropWhile_cons_of_pos hchar] at hdrop
    have hread := @tokens_bare position c (tail ++ rest) (isNameStart_iff.mpr hc)
    rw [htake.2, hdrop, Nat.add_assoc] at hread
    exact hread
  | @braced name rest fallback h =>
    obtain ⟨body, hbody, hparts, hwritten⟩ := h.exists_body
    have hread := @tokens_braced position _ _ _ (Text.cutAt_append hbody rest)
    cases h with
    | braced hname _ =>
    rw [hparts, if_pos (isName_iff.mpr hname)] at hread
    have hlength : Text.byteLength ('$' :: '\x7b' :: body ++ ['}']) = Text.byteLength body + 3 := by
      simp only [List.cons_append, Text.byteLength_cons, Text.byteLength_append]
      change 1 + (1 + (Text.byteLength body + 1)) = _
      omega
    rw [hwritten, hlength, ← Nat.add_assoc, ← hread]
    simp
  | @dollar rest h =>
    exact tokens_dollar fun c hc ↦ ⟨fun he ↦ hbrace ⟨rfl, he ▸ hc⟩, isNameStart_of_dollar h c hc⟩

private theorem Opens.tokens_error (h : Opens (.literal '$') rest)
    (hbrace : rest.head? = some '\x7b')
    (position : Nat) : ∃ e, tokens position ('$' :: rest) = .error e := by
  obtain ⟨s, rfl⟩ := List.head?_eq_some_iff.mp hbrace
  have hnone : ∀ token, IsReference token → ¬ token.written <+: '$' :: '\x7b' :: s := by
    cases h with
    | plain hdollar => exact absurd rfl hdollar
    | dollar h => exact h
  cases hcut : cutBrace s with
  | none => exact ⟨_, tokens_unclosed hcut⟩
  | some parts =>
    obtain ⟨body, behind⟩ := parts
    refine ⟨_, (tokens_braced hcut).trans (if_neg fun hname ↦ ?_)⟩
    have hs := Text.eq_append_of_cutAt hcut
    have hbody := Text.not_mem_of_cutAt hcut
    refine hnone _ (isReference_bracedParts hbody hname) ⟨behind, ?_⟩
    rw [written_bracedParts, hs]
    simp

/-- A well formed reading is what the tokens of a template are; without one there are none. -/
theorem Reads.tokens_eq (h : Reads s ts) (position : Nat) :
    (IsWellFormed ts → tokens position s = .ok ts) ∧
      (¬ IsWellFormed ts → ∃ e, tokens position s = .error e) := by
  induction h generalizing position with
  | nil => exact ⟨fun _ ↦ tokens_nil position, fun h ↦ absurd (by simp [IsWellFormed]) h⟩
  | @cons token rest ts ho hrest ih =>
    rw [isWellFormed_cons, ← hrest.head_eq_brace_iff]
    by_cases hbrace : token = .literal '$' ∧ rest.head? = some '\x7b'
    · obtain ⟨rfl, hhead⟩ := hbrace
      exact ⟨fun h ↦ absurd ⟨rfl, hhead⟩ h.1, fun _ ↦ ho.tokens_error hhead position⟩
    · rw [ho.tokens_eq hbrace position]
      obtain ⟨hok, herror⟩ := ih (position + Text.byteLength token.written)
      constructor
      · rintro ⟨-, h⟩
        rw [hok h]
        rfl
      · intro h
        obtain ⟨e, he⟩ := herror fun hts ↦ h ⟨hbrace, hts⟩
        rw [he]
        exact ⟨e, rfl⟩

/-- The tokens of a template are its reading. -/
theorem Reads.eq_of_tokens (h : Reads s ts) {position : Nat} (hus : tokens position s = .ok us) :
    ts = us := by
  obtain ⟨hok, herror⟩ := h.tokens_eq position
  by_cases hts : IsWellFormed ts
  · exact Except.ok.inj ((hok hts).symm.trans hus)
  · obtain ⟨e, he⟩ := herror hts
    rw [he] at hus
    cases hus

/-- What a template stands for is what its tokens stand for, one after the other. -/
theorem Reads.toList_expand {template text : String} {params : Dict String}
    (h : Reads template.toList ts) (htext : expand template params = .ok text) :
    text.toList = ts.flatMap (Token.fill params) := by
  rw [expand_eq] at htext
  cases hus : tokens 0 template.toList with
  | error e =>
    rw [hus] at htext
    cases htext
  | ok us =>
    rw [hus] at htext
    rw [← Except.ok.inj htext, String.toList_ofList, h.eq_of_tokens hus]

/-! ### What is put in -/

section

variable {params : Dict String} {part : List Char}

private theorem stands_iff : Stands params token part ↔ token.fill params = part := by
  constructor
  · intro hstands
    cases hstands with
    | literal => rfl
    | escapedDollar => rfl
    | bare h => simp [Token.fill, value?, h]
    | bareKept h => simp [Token.fill, value?, h, Token.written]
    | @braced _ fallback _ h => cases fallback <;> simp [Token.fill, value?, h]
    | byDefault h => simp [Token.fill, value?, h]
    | bracedKept h => simp [Token.fill, value?, h, Token.written]
  · rintro rfl
    cases token with
    | literal c => exact .literal
    | escapedDollar => exact .escapedDollar
    | bare name =>
      rw [Token.fill, value?]
      cases h : params.get? (String.ofList name) with
      | some value => exact .bare h
      | none => exact .bareKept h
    | braced name fallback =>
      cases fallback with
      | some text =>
        rw [Token.fill, value?]
        cases h : params.get? (String.ofList name) with
        | some value => exact .braced h
        | none => exact .byDefault h
      | none =>
        rw [Token.fill, value?]
        cases h : params.get? (String.ofList name) with
        | some value => exact .braced h
        | none => exact .bracedKept h

private theorem exists_stands_iff {text : String} :
    (∃ parts, List.Forall₂ (Stands params) ts parts ∧ text = String.ofList parts.flatten) ↔
      text = String.ofList (ts.flatMap (Token.fill params)) := by
  have hstands : Stands params = fun token part ↦ token.fill params = part := by
    funext token part
    exact propext stands_iff
  have hparts (parts : List (List Char)) :
      List.Forall₂ (Stands params) ts parts ↔ ts.map (Token.fill params) = parts := by
    rw [hstands, ← List.forall₂_map_left_iff, List.forall₂_eq_eq_eq]
  simp only [hparts, exists_eq_left', List.flatMap_def]

end

/-- Every template has exactly one reading, and the reading gives the template back. Putting in
the parameters succeeds exactly when every brace behind a dollar belongs to a reference, and then
it gives what the tokens stand for, one after the other. The pass that does so ends, and cuts the
template between characters only. -/
theorem expand_reads (template : String) :
    ∃ ts, Reads template.toList ts ∧ (∀ us, Reads template.toList us → us = ts) ∧
      ts.flatMap Token.written = template.toList ∧
      ∀ params,
        (∀ text, expand template params = .ok text ↔ IsWellFormed ts ∧
          ∃ parts, List.Forall₂ (Stands params) ts parts ∧ text = String.ofList parts.flatten) ∧
        pass params 0 template.toList ≠ .error .badCut := by
  obtain ⟨ts, h⟩ := exists_reads template.toList
  refine ⟨ts, h, fun us ↦ h.unique, h.written, fun params ↦ ⟨fun text ↦ ?_, pass_ne_badCut _ _ _⟩⟩
  obtain ⟨hok, herror⟩ := h.tokens_eq 0
  rw [exists_stands_iff, expand_eq]
  by_cases hts : IsWellFormed ts
  · rw [hok hts]
    simp [Except.map, hts, eq_comm]
  · obtain ⟨e, he⟩ := herror hts
    rw [he]
    simp [Except.map, hts]

/-- Beside an escaped dollar, a value that looks like a reference, a default and a reference to
nothing. -/
theorem expand_reads_substituted :
    let template := "\\$$A_1-$\x7bB:-$C\x7d$\x7bC:-x\x7d$D"
    let params : Dict String := .ofList [("A_1", "$B"), ("C", "\\")]
    let ts : List Token :=
      [.escapedDollar, .bare ['A', '_', '1'], .literal '-', .braced ['B'] (some ['$', 'C']),
        .braced ['C'] (some ['x']), .bare ['D']]
    Reads template.toList ts ∧ expand template params = .ok "\\$$B-$C\\$D" := by
  intro template params ts
  have hname {c : Char} {tail : List Char} (hc : BeginsName c)
      (h : tail.all (fun x ↦ decide (ContinuesName x)) = true) : IsName (c :: tail) :=
    ⟨c, tail, rfl, hc, by simpa using h⟩
  have hwritten : template.toList = ts.flatMap Token.written := by decide
  have hreads : Reads template.toList ts := by
    rw [hwritten]
    refine .cons .escapedDollar ?_
    refine .cons (.bare (.bare (hname (by decide) (by decide))) ?_) ?_
    · rintro _ ⟨⟩
      decide
    refine .cons (.plain (by decide) (by decide)) ?_
    refine .cons (.braced (.braced (hname (by decide) (by decide)) (by decide))) ?_
    refine .cons (.braced (.braced (hname (by decide) (by decide)) (by decide))) ?_
    refine .cons (.bare (.bare (hname (by decide) (by decide))) ?_) .nil
    rintro _ ⟨⟩
  have hstands : List.Forall₂ (Stands params) ts
      [['\\', '$'], "$B".toList, ['-'], ['$', 'C'], "\\".toList, ['$', 'D']] :=
    .cons .escapedDollar <| .cons (.bare rfl) <| .cons .literal <| .cons (.byDefault rfl) <|
      .cons (.braced rfl) <| .cons (.bareKept rfl) .nil
  have hformed : IsWellFormed ts := by simp [ts, IsWellFormed, List.infix_cons_iff]
  obtain ⟨us, -, hunique, -, hexpand⟩ := expand_reads template
  obtain rfl := hunique ts hreads
  exact ⟨hreads, ((hexpand params).1 _).mpr ⟨hformed, _, hstands, by decide⟩⟩

end ContainerBuild.Template
