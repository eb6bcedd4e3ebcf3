import ContainerBuild.Author
import ContainerBuild.Proofs.Text.Trim

/-!
# Authors and their written form

The name of an author with an address is trimmed before its quotes are dropped, and not after. So
blanks directly inside the quotes stay in the name, the written form shows them at its ends, and
they are lost when that is read. Nothing else keeps a name from being trimmed, or an author from
being read again from its written form.
-/

namespace ContainerBuild.Author

open Text (isBlank trimChars dropEnds)

variable {s name email before inner : List Char} {text : String}

/-- Whether a character is a double quote. -/
def isQuote (c : Char) : Bool := c = '"'

/-- Whether a blank stands directly behind the quotes at the front of a text. -/
def OpensPadded (s : List Char) : Prop :=
  ∃ quotes c rest, s = quotes ++ c :: rest ∧ (∀ q ∈ quotes, isQuote q = true) ∧ isBlank c = true

/-- Whether a blank stands directly inside the quotes at one of the ends of a text. -/
def IsPadded (s : List Char) : Prop := OpensPadded s ∨ OpensPadded s.reverse

/-- Whether a text has a padded name and an address: its last character is a closing bracket, and
the name is what stands before its first opening one. -/
def HasPaddedName (text : String) : Prop :=
  ∃ before inner, trimChars text.toList = before ++ '<' :: inner ++ ['>'] ∧ '<' ∉ before ∧
    IsPadded (trimChars before)

/-! ## Quotes -/

/-- Quotes are dropped at both ends. -/
theorem dropQuotes_eq_dropEnds (s : List Char) : dropQuotes s = dropEnds isQuote s := rfl

private theorem isQuote_of_isBlank {c : Char} (h : isBlank c = true) : isQuote c = false := by
  rw [isQuote, decide_eq_false_iff_not]
  rintro rfl
  cases h

private theorem opensPadded_iff : OpensPadded s ↔ ∃ c ∈ (dropQuotes s).head?, isBlank c = true := by
  constructor
  · rintro ⟨quotes, c, rest, rfl, hquotes, hc⟩
    refine ⟨c, ?_, hc⟩
    rw [dropQuotes_eq_dropEnds, Text.dropEnds_append_left hquotes]
    obtain ⟨front, back, heq, hfront, hback⟩ := Text.exists_eq_append_dropEnds isQuote (c :: rest)
    -- the blank is none of the dropped characters, so it is the first of what is left
    have hne : isQuote c ≠ true := by
      rw [isQuote_of_isBlank hc]
      exact Bool.false_ne_true
    cases front with
    | cons q front =>
      rw [List.cons_append, List.cons_append, List.cons.injEq] at heq
      exact absurd (hfront c (heq.1 ▸ List.mem_cons_self)) hne
    | nil =>
      cases hleft : dropEnds isQuote (c :: rest) with
      | nil =>
        rw [hleft, List.nil_append, List.nil_append] at heq
        exact absurd (hback c (heq ▸ List.mem_cons_self)) hne
      | cons d left =>
        rw [hleft, List.nil_append, List.cons_append, List.cons.injEq] at heq
        rw [heq.1]
        rfl
  · rintro ⟨c, hhead, hc⟩
    obtain ⟨left, hleft⟩ := List.head?_eq_some_iff.mp hhead
    obtain ⟨front, back, heq, hfront, -⟩ := Text.exists_eq_append_dropEnds isQuote s
    rw [← dropQuotes_eq_dropEnds, hleft, List.append_assoc, List.cons_append] at heq
    exact ⟨front, c, left ++ back, heq, hfront, hc⟩

private theorem trimChars_dropQuotes_iff :
    trimChars (dropQuotes s) = dropQuotes s ↔ ¬ IsPadded s := by
  rw [Text.trimChars_eq_dropEnds, Text.dropEnds_eq_self_iff, IsPadded, opensPadded_iff,
    opensPadded_iff, dropQuotes_eq_dropEnds s.reverse, Text.dropEnds_reverse, List.head?_reverse,
    ← dropQuotes_eq_dropEnds]
  simp only [not_or, not_exists, not_and, Bool.not_eq_true]

private theorem dropQuotes_trimChars_dropQuotes_iff :
    dropQuotes (trimChars (dropQuotes s)) = dropQuotes s ↔
      trimChars (dropQuotes s) = dropQuotes s := by
  constructor
  · intro h
    have htrim := Text.dropEnds_sublist isBlank (dropQuotes s)
    have hquotes := Text.dropEnds_sublist isQuote (trimChars (dropQuotes s))
    rw [← dropQuotes_eq_dropEnds, h] at hquotes
    exact htrim.antisymm hquotes
  · intro h
    rw [h]
    exact Text.dropEnds_dropEnds s

/-! ## Reading -/

/-- A text with an address ends in a closing bracket, and its first opening one divides it. -/
theorem addressed?_eq_some_iff : addressed? s = some (name, email) ↔
    ∃ before inner, s = before ++ '<' :: inner ++ ['>'] ∧ '<' ∉ before ∧
      name = dropQuotes (trimChars before) ∧ email = trimChars inner := by
  rw [addressed?]
  constructor
  · intro h
    split at h
    · next inner hs =>
      obtain ⟨⟨front, behind⟩, hcut, heq⟩ := Option.map_eq_some_iff.mp h
      cases heq
      refine ⟨front, behind, ?_, Text.not_mem_of_cutAt hcut, rfl, rfl⟩
      rw [← Text.eq_append_of_cutAt hcut, ← List.reverse_cons, ← hs, List.reverse_reverse]
    · cases h
  · rintro ⟨before, inner, rfl, hbefore, rfl, rfl⟩
    rw [List.reverse_append, List.reverse_singleton, List.singleton_append]
    simp only [List.reverse_reverse, Text.cutAt_append hbefore, Option.map_some]

/-- An author whose text has an address. -/
theorem parse_of_addressed (h : trimChars text.toList = before ++ '<' :: inner ++ ['>'])
    (hbefore : '<' ∉ before) : parse text =
      ⟨String.ofList (dropQuotes (trimChars before)), some (String.ofList (trimChars inner))⟩ := by
  have haddressed := addressed?_eq_some_iff.mpr ⟨before, inner, h, hbefore, rfl, rfl⟩
  simp only [parse, haddressed]

private theorem parse_of_not_addressed (h : addressed? (trimChars text.toList) = none) :
    parse text = ⟨Text.trim text, none⟩ := by
  simp only [parse, h]
  rfl

private theorem hasPaddedName_iff (h : trimChars text.toList = before ++ '<' :: inner ++ ['>'])
    (hbefore : '<' ∉ before) : HasPaddedName text ↔ IsPadded (trimChars before) := by
  have hcut : Text.cutAt '<' (trimChars text.toList) = some (before, inner ++ ['>']) := by
    rw [h, List.append_assoc, List.cons_append, Text.cutAt_append hbefore]
  constructor
  · rintro ⟨front, behind, hfront, hmem, hpadded⟩
    -- a text is divided in one way only
    rw [hfront, List.append_assoc, List.cons_append, Text.cutAt_append hmem] at hcut
    rwa [(Prod.mk.inj (Option.some.inj hcut)).1] at hpadded
  · exact fun hpadded ↦ ⟨before, inner, h, hbefore, hpadded⟩

private theorem not_hasPaddedName (h : addressed? (trimChars text.toList) = none) :
    ¬ HasPaddedName text := by
  rintro ⟨before, inner, htext, hbefore, -⟩
  rw [addressed?_eq_some_iff.mpr ⟨before, inner, htext, hbefore, rfl, rfl⟩] at h
  cases h

/-! ## Writing -/

private theorem trimChars_dropWhile (s : List Char) :
    trimChars (s.dropWhile isBlank) = trimChars s := by
  conv_rhs => rw [← List.takeWhile_append_dropWhile (p := isBlank) (l := s)]
  exact (Text.trimChars_append_left (fun c hc ↦ List.mem_takeWhile_imp hc) _).symm

private theorem trimChars_append_brackets (front inner : List Char) :
    trimChars (front ++ '<' :: inner ++ ['>']) =
      front.dropWhile isBlank ++ '<' :: inner ++ ['>'] := by
  have hself : trimChars (front.dropWhile isBlank ++ '<' :: inner ++ ['>']) =
      front.dropWhile isBlank ++ '<' :: inner ++ ['>'] := by
    rw [Text.trimChars_eq_dropEnds, Text.dropEnds_eq_self_iff, List.append_assoc]
    constructor
    · intro c hc
      have hhead := List.head?_dropWhile_not isBlank front
      rw [List.head?_append] at hc
      cases hdrop : (front.dropWhile isBlank).head? with
      | none =>
        rw [hdrop] at hc
        cases hc
        decide
      | some d =>
        rw [hdrop] at hc hhead
        cases hc
        simpa using hhead
    · intro c hc
      rw [← List.append_assoc, List.getLast?_concat] at hc
      cases hc
      decide
  conv_lhs => rw [← List.takeWhile_append_dropWhile (p := isBlank) (l := front)]
  rw [List.append_assoc, List.append_assoc,
    Text.trimChars_append_left fun c hc ↦ List.mem_takeWhile_imp hc, ← List.append_assoc, hself]

/-- What stands before the address in the written form of an author. -/
def writtenName (name : List Char) : List Char := if name = [] then [] else name ++ [' ']

private theorem toList_render (name email : List Char) :
    (render ⟨String.ofList name, some (String.ofList email)⟩).toList =
      writtenName name ++ '<' :: email ++ ['>'] := by
  have hempty : String.ofList name = "" ↔ name = [] := by
    rw [← String.toList_inj, String.toList_ofList]
    rfl
  simp only [render, writtenName, hempty]
  split <;> simp

/-- An author with an address is read again with the name trimmed and its quotes dropped. -/
theorem parse_render (hname : '<' ∉ name) :
    parse (render ⟨String.ofList name, some (String.ofList email)⟩) =
      ⟨String.ofList (dropQuotes (trimChars name)), some (String.ofList (trimChars email))⟩ := by
  have hfront : '<' ∉ (writtenName name).dropWhile isBlank := by
    intro hmem
    have hmem := (List.dropWhile_sublist isBlank).mem hmem
    rw [writtenName] at hmem
    split at hmem
    · cases hmem
    · simp [hname] at hmem
  have htrim : trimChars ((writtenName name).dropWhile isBlank) = trimChars name := by
    rw [trimChars_dropWhile, writtenName]
    split
    · next h => rw [h]
    · exact Text.trimChars_append_right (List.forall_mem_singleton.mpr rfl) name
  have htext := trimChars_append_brackets (writtenName name) email
  rw [← toList_render] at htext
  rw [parse_of_addressed htext hfront, htrim]

/-! ## Authors that are read -/

/-- The address of an author that is read is trimmed. Its name is trimmed, and the author is read
again from its written form, exactly when no blank stands directly inside the quotes of the name
in the text. -/
theorem stable_parse_iff (text : String) :
    (∀ email, (parse text).email = some email → Text.trim email = email) ∧
      (Text.trim (parse text).name = (parse text).name ↔ ¬ HasPaddedName text) ∧
      (parse (parse text).render = parse text ↔ ¬ HasPaddedName text) := by
  cases haddressed : addressed? (trimChars text.toList) with
  | none =>
    have hpadded := not_hasPaddedName haddressed
    have hagain : addressed? (trimChars (Text.trim text).toList) = none := by
      rwa [Text.toList_trim, Text.trimChars_trimChars]
    rw [parse_of_not_addressed haddressed]
    refine ⟨?_, iff_of_true (Text.trim_trim text) hpadded, iff_of_true ?_ hpadded⟩
    · intro email h
      cases h
    · show parse (Text.trim text) = _
      rw [parse_of_not_addressed hagain, Text.trim_trim]
  | some parts =>
    obtain ⟨name, email⟩ := parts
    obtain ⟨before, inner, htext, hbefore, -, -⟩ := addressed?_eq_some_iff.mp haddressed
    have hname : '<' ∉ dropQuotes (trimChars before) := fun hmem ↦
      hbefore (Text.mem_of_mem_trimChars ((Text.dropEnds_sublist isQuote _).mem hmem))
    rw [parse_of_addressed htext hbefore, parse_render hname, Text.trimChars_trimChars,
      hasPaddedName_iff htext hbefore, ← trimChars_dropQuotes_iff]
    refine ⟨?_, ?_, ?_⟩
    · intro email h
      cases h
      simp [Text.trim]
    · rw [Text.trim, String.toList_ofList, String.ofList_inj]
    · simp only [Author.mk.injEq, String.ofList_inj, and_true]
      exact dropQuotes_trimChars_dropQuotes_iff

/-- Blanks inside the quotes of a name stay at its ends, and are lost when the written form of the
author is read. -/
theorem parse_render_ne_of_padded :
    let a := parse "\" Ada \" <ada@x.io>"
    a = ⟨" Ada ", some "ada@x.io"⟩ ∧ Text.trim a.name ≠ a.name ∧ a.render = " Ada  <ada@x.io>" ∧
      parse a.render = ⟨"Ada", some "ada@x.io"⟩ ∧ parse a.render ≠ a := by
  decide

end ContainerBuild.Author
