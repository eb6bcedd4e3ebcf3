import ContainerBuild.Proofs.Quote.OneLine
import Mathlib.Algebra.Ring.Parity
import Mathlib.Data.List.Induction

/-!
# Reading quoted values

How a value between double quotes is read: a backslash escapes a quote, a backslash or a dollar,
and a dollar that is not escaped may open a reference. A quoted value is one closed word. What is
read in it is the text, where a backslash right before a dollar has done its work and is gone.
-/

namespace ContainerBuild.Quote

/-- A character of a value as it is read. -/
inductive Glyph where
  /-- A character that is meant; a dollar is one only behind a backslash. -/
  | char (c : Char)
  /-- A dollar that is not escaped, and so may open a reference. -/
  | dollar
deriving DecidableEq, Repr

namespace Glyph

/-- A character that is not escaped. -/
def plain (c : Char) : Glyph := if c = '$' then .dollar else .char c

/-- The character of a glyph. -/
def toChar : Glyph → Char
  | .char c => c
  | .dollar => '$'

/-- A character that is not escaped is the character that is read. -/
@[simp] theorem toChar_plain (c : Char) : (plain c).toChar = c := by
  rw [plain]
  split
  · next h => exact h.symm
  · rfl

end Glyph

/-- Whether a backslash before a character escapes it. -/
def isEscapable (c : Char) : Bool := c = '"' || c = '\\' || c = '$'

/-- Reads a value behind its opening quote, up to a closing one that is its last character. -/
def readOpen? : List Char → Option (List Glyph)
  | [] => none
  | '"' :: rest => if rest.isEmpty then some [] else none
  | '\\' :: c :: rest =>
    if isEscapable c then (readOpen? rest).map (.char c :: ·)
    else (readOpen? (c :: rest)).map (.char '\\' :: ·)
  | c :: rest => (readOpen? rest).map (.plain c :: ·)

/-- Reads a value between double quotes. -/
def read? : List Char → Option (List Glyph)
  | '"' :: rest => readOpen? rest
  | _ => none

/-- A glyph as it stands in a text that is to be quoted. -/
def Glyph.written : Glyph → List Char
  | .char c => if c = '$' then ['\\', '$'] else [c]
  | .dollar => ['$']

/-- What a text means as a value: its characters, where a dollar behind a backslash is escaped. -/
def meant : List Char → List Glyph
  | [] => []
  | '\\' :: '$' :: rest => .char '$' :: meant rest
  | c :: rest => .plain c :: meant rest

/-- A text without each backslash that stands right before a dollar. -/
def withoutEscapes : List Char → List Char
  | [] => []
  | '\\' :: '$' :: rest => '$' :: withoutEscapes rest
  | c :: rest => c :: withoutEscapes rest

/-- A backslash that is meant stands right before a dollar that is not escaped. Written one after
the other, the two would be an escaped dollar. -/
def Collides (gs : List Glyph) : Prop := [.char '\\', .dollar] <:+: gs

instance : DecidablePred Collides := fun gs ↦
  inferInstanceAs (Decidable ([Glyph.char '\\', .dollar] <:+: gs))

/-- The number of backslashes at the end of a text. -/
def backslashRun (s : List Char) : Nat := (s.reverse.takeWhile (· = '\\')).length

/-- Whether what follows a text is escaped by it. -/
def isOpenEscape (s : List Char) : Bool := s.foldl (fun escape c ↦ c = '\\' && !escape) false

variable {s front behind rest : List Char} {c : Char}

/-! ## What is read -/

/-- A character that does not escape the next one means itself. -/
theorem meant_cons (h : ¬ (c = '\\' ∧ rest.head? = some '$')) :
    meant (c :: rest) = .plain c :: meant rest := by
  rw [meant]
  rintro behind rfl rfl
  exact h ⟨rfl, rfl⟩

private theorem readOpen?_cons (hquote : c ≠ '"') (hbackslash : c ≠ '\\') :
    readOpen? (c :: rest) = (readOpen? rest).map (.plain c :: ·) := by
  rw [readOpen?]
  · exact hquote
  · exact fun _ _ h ↦ absurd h hbackslash

private theorem readOpen?_valueChars (s : List Char) :
    readOpen? (valueChars s ++ ['"']) = some (meant s) := by
  fun_induction valueChars s with
  | case1 => rfl
  | case2 rest ih =>
    rw [meant_cons (by simp)]
    simp [readOpen?, isEscapable, ih, Glyph.plain]
  | case3 rest ih => simp [readOpen?, isEscapable, meant, ih]
  | case4 rest h ih =>
    rw [meant_cons fun hhead ↦ ?_]
    · simp [readOpen?, isEscapable, ih, Glyph.plain]
    · obtain ⟨behind, hrest⟩ := List.head?_eq_some_iff.mp hhead.2
      exact h behind hrest
  | case5 c rest hquote _ hbackslash ih =>
    rw [meant_cons fun h ↦ hbackslash h.1, List.cons_append, readOpen?_cons hquote hbackslash, ih,
      Option.map_some]

/-- What a quoted value is read as. -/
theorem read?_value (s : String) : read? (value s).toList = some (meant s.toList) := by
  rw [value, String.toList_ofList, List.cons_append, read?, readOpen?_valueChars]

private theorem map_toChar_meant (s : List Char) :
    (meant s).map Glyph.toChar = withoutEscapes s := by
  fun_induction meant s with
  | case1 => rfl
  | case2 rest ih => rw [List.map_cons, ih, withoutEscapes, Glyph.toChar]
  | case3 c rest h ih =>
    rw [List.map_cons, ih, withoutEscapes, Glyph.toChar_plain]
    exact h

/-! ## Texts that are put together -/

/-- A character that is not escaped is written as it is. -/
@[simp] theorem written_plain (c : Char) : (Glyph.plain c).written = [c] := by
  rw [Glyph.plain]
  split
  · next h => rw [h, Glyph.written]
  · next h => rw [Glyph.written, if_neg h]

/-- What a text means is written as the text. -/
theorem flatMap_written_meant (s : List Char) : (meant s).flatMap Glyph.written = s := by
  fun_induction meant s with
  | case1 => rfl
  | case2 rest ih => simp [ih, Glyph.written]
  | case3 c rest _ ih => simp [ih]

variable {g : Glyph} {gs : List Glyph}

private theorem collides_cons :
    Collides (g :: gs) ↔ (g = .char '\\' ∧ gs.head? = some .dollar) ∨ Collides gs := by
  have hhead : [Glyph.dollar] <+: gs ↔ gs.head? = some .dollar := by
    cases gs with
    | nil => simp
    | cons g gs => simp [@eq_comm _ g]
  rw [Collides, Collides, List.infix_cons_iff, List.cons_prefix_cons, hhead, @eq_comm _ _ g]

private theorem head_flatMap_written :
    (gs.flatMap Glyph.written).head? = some '$' ↔ gs.head? = some .dollar := by
  rcases gs with _ | ⟨c | _, gs⟩
  · simp
  · by_cases hc : c = '$' <;> simp [Glyph.written, hc]
  · simp [Glyph.written]

private theorem meant_written_append (h : ¬ (g = .char '\\' ∧ gs.head? = some .dollar)) :
    meant (g.written ++ gs.flatMap Glyph.written) = g :: meant (gs.flatMap Glyph.written) := by
  have hplain {c : Char} (hc : ¬ (Glyph.char c = .char '\\' ∧ gs.head? = some .dollar)) :
      meant (c :: gs.flatMap Glyph.written) = .plain c :: meant (gs.flatMap Glyph.written) := by
    refine meant_cons ?_
    rw [head_flatMap_written]
    simpa using hc
  cases g with
  | dollar => exact hplain (by simp)
  | char c =>
    by_cases hc : c = '$'
    · subst hc
      rfl
    · rw [Glyph.written, if_neg hc, List.singleton_append, hplain h, Glyph.plain, if_neg hc]

/-- Glyphs that do not collide are meant where they are written. Where some do, fewer glyphs are
meant than are written. -/
theorem meant_flatMap_written (gs : List Glyph) :
    (¬ Collides gs → meant (gs.flatMap Glyph.written) = gs) ∧
      (Collides gs → (meant (gs.flatMap Glyph.written)).length < gs.length) := by
  match gs with
  | [] => exact ⟨fun _ ↦ rfl, fun h ↦ by simp [Collides] at h⟩
  | g :: gs =>
    rw [collides_cons, List.flatMap_cons, List.length_cons]
    by_cases hfirst : g = .char '\\' ∧ gs.head? = some .dollar
    · refine ⟨fun h ↦ absurd (.inl hfirst) h, fun _ ↦ ?_⟩
      obtain ⟨rfl, hhead⟩ := hfirst
      obtain ⟨gs, rfl⟩ := List.head?_eq_some_iff.mp hhead
      have hescape : meant ((Glyph.char '\\').written ++ (.dollar :: gs).flatMap Glyph.written) =
          .char '$' :: meant (gs.flatMap Glyph.written) := rfl
      obtain ⟨hsame, hfewer⟩ := meant_flatMap_written gs
      rw [hescape, List.length_cons, List.length_cons]
      by_cases h : Collides gs
      · have := hfewer h
        omega
      · rw [hsame h]
        omega
    · obtain ⟨hsame, hfewer⟩ := meant_flatMap_written gs
      rw [meant_written_append hfirst, List.length_cons]
      refine ⟨fun h ↦ ?_, fun h ↦ ?_⟩
      · rw [hsame fun hgs ↦ h (.inr hgs)]
      · have := hfewer (h.resolve_left hfirst)
        omega
termination_by gs.length

/-! ## Backslashes -/

/-- A backslash escapes one character, and that one escapes nothing. -/
theorem isOpenEscape_pair (c : Char) (s : List Char) :
    isOpenEscape ('\\' :: c :: s) = isOpenEscape s := by
  simp [isOpenEscape]

/-- Other characters escape nothing. -/
theorem isOpenEscape_cons (h : c ≠ '\\') (s : List Char) :
    isOpenEscape (c :: s) = isOpenEscape s := by
  simp [isOpenEscape, h]

/-- A text escapes what follows it when an odd number of backslashes stands at its end. -/
theorem isOpenEscape_iff (s : List Char) : isOpenEscape s = true ↔ Odd (backslashRun s) := by
  induction s using List.reverseRecOn with
  | nil => simp [isOpenEscape, backslashRun]
  | append_singleton s c ih =>
    rw [isOpenEscape, backslashRun] at *
    by_cases hc : c = '\\'
    · subst hc
      simp [Nat.odd_add_one, ← ih]
    · simp [hc]

/-- A quoted value escapes nothing behind it. -/
theorem isOpenEscape_valueChars (s : List Char) : isOpenEscape (valueChars s) = false := by
  fun_induction valueChars s with
  | case1 => rfl
  | case2 rest ih => rw [isOpenEscape_pair, ih]
  | case3 rest ih => rw [isOpenEscape_pair, ih]
  | case4 rest _ ih => rw [isOpenEscape_pair, ih]
  | case5 c rest _ _ hbackslash ih => rw [isOpenEscape_cons hbackslash, ih]

/-- Every double quote inside of a quoted value is escaped. -/
theorem isOpenEscape_of_valueChars_eq (h : valueChars s = front ++ '"' :: behind) :
    isOpenEscape front = true := by
  -- an escaped character is the quote in question, or the quote stands behind it
  have hpair {c : Char} {rest front : List Char} (h : '\\' :: c :: rest = front ++ '"' :: behind)
      (ih : ∀ {front}, rest = front ++ '"' :: behind → isOpenEscape front = true) :
      isOpenEscape front = true := by
    match front with
    | [] => cases h
    | [x] =>
      cases h
      rfl
    | x :: y :: front =>
      simp only [List.cons_append, List.cons.injEq] at h
      obtain ⟨rfl, rfl, hrest⟩ := h
      rw [isOpenEscape_pair, ih hrest]
  fun_induction valueChars s generalizing front with
  | case1 => simp at h
  | case2 rest ih => exact hpair h ih
  | case3 rest ih => exact hpair h ih
  | case4 rest _ ih => exact hpair h ih
  | case5 c rest hquote _ hbackslash ih =>
    cases front with
    | nil => exact absurd (List.cons.inj h).1 hquote
    | cons x front =>
      obtain ⟨rfl, hrest⟩ := List.cons.inj h
      rw [isOpenEscape_cons hbackslash, ih hrest]

/-- What introduces a value, an equals sign with a double quote behind it, is never found inside of
one. -/
theorem valueChars_ne (s before behind : List Char) :
    valueChars s ≠ before ++ '=' :: '"' :: behind := by
  intro h
  have hopen : isOpenEscape (before ++ ['=']) = true :=
    isOpenEscape_of_valueChars_eq (by rw [h, List.append_assoc]; rfl)
  simp [isOpenEscape] at hopen

/-! ## Dollars -/

private theorem count_dollar_valueChars (s : List Char) :
    (valueChars s).count '$' = s.count '$' := by
  fun_induction valueChars s with
  | case1 => rfl
  | case2 rest ih => simp [ih]
  | case3 rest ih => simp [ih]
  | case4 rest _ ih => simp [ih]
  | case5 c rest _ _ _ ih => simp [List.count_cons, ih]

/-- A character that does not escape the next one is quoted on its own. -/
theorem valueChars_cons (h : ¬ (c = '\\' ∧ rest.head? = some '$')) :
    valueChars (c :: rest) = valueChars [c] ++ valueChars rest := by
  by_cases hquote : c = '"'
  · subst hquote
    rfl
  by_cases hbackslash : c = '\\'
  · subst hbackslash
    rw [valueChars]
    · rfl
    · rintro behind rfl
      exact h ⟨rfl, rfl⟩
  rw [valueChars, valueChars]
  · rfl
  all_goals simp_all

private theorem valueChars_append (h : ¬ (front.getLast? = some '\\' ∧ behind.head? = some '$')) :
    valueChars (front ++ behind) = valueChars front ++ valueChars behind := by
  fun_induction meant front with
  | case1 => rfl
  | case2 rest ih =>
    have hrest : ¬ (rest.getLast? = some '\\' ∧ behind.head? = some '$') := fun hboth ↦
      h ⟨by simp [List.getLast?_cons, hboth.1], hboth.2⟩
    rw [List.cons_append, List.cons_append, valueChars, valueChars, ih hrest]
    rfl
  | case3 c rest hc ih =>
    have hrest : ¬ (rest.getLast? = some '\\' ∧ behind.head? = some '$') := fun hboth ↦
      h ⟨by simp [List.getLast?_cons, hboth.1], hboth.2⟩
    have hself : ¬ (c = '\\' ∧ rest.head? = some '$') := by
      rintro ⟨rfl, hhead⟩
      obtain ⟨tail, rfl⟩ := List.head?_eq_some_iff.mp hhead
      exact hc tail rfl rfl
    have hnext : ¬ (c = '\\' ∧ (rest ++ behind).head? = some '$') := by
      cases rest with
      | nil => simpa using h
      | cons d rest => exact hself
    rw [List.cons_append, valueChars_cons hnext, valueChars_cons hself, ih hrest,
      List.append_assoc]

private theorem exists_valueChars_eq_dollar (h : s = front ++ '$' :: behind) :
    ∃ front' behind', valueChars s = front' ++ '$' :: behind' ∧
      front'.count '$' = front.count '$' ∧
      (isOpenEscape front' = true ↔ front.getLast? = some '\\') := by
  subst h
  by_cases hlast : front.getLast? = some '\\'
  · obtain ⟨front, rfl⟩ := List.getLast?_eq_some_iff.mp hlast
    refine ⟨valueChars front ++ ['\\'], valueChars behind, ?_, ?_, ?_⟩
    · have happend := @valueChars_append front ('\\' :: '$' :: behind) (by simp)
      rw [List.append_assoc, List.singleton_append, happend, valueChars]
      simp
    · simp [count_dollar_valueChars]
    · have hopen := isOpenEscape_valueChars front
      rw [isOpenEscape] at *
      simp [hopen]
  · refine ⟨valueChars front, valueChars behind, ?_, count_dollar_valueChars front, ?_⟩
    · rw [valueChars_append fun h ↦ hlast h.1, @valueChars_cons behind '$' (by simp)]
      rfl
    · simp [isOpenEscape_valueChars, hlast]

/-! ## The whole value -/

/-- A quoted value is one closed word between double quotes: inside of them every quote stands
behind an odd number of backslashes, and an even number stands before the closing one. What is read
in it is the text without the backslashes that stand right before a dollar, and a dollar is escaped
in it exactly when such a backslash stands before it. -/
theorem value_isClosedWord (s : String) :
    ∃ inside gs, (value s).toList = '"' :: inside ++ ['"'] ∧
      (∀ front behind, inside = front ++ '"' :: behind → Odd (backslashRun front)) ∧
      Even (backslashRun inside) ∧
      read? (value s).toList = some gs ∧ gs.map Glyph.toChar = withoutEscapes s.toList ∧
      ∀ front behind, s.toList = front ++ '$' :: behind →
        ∃ front' behind', inside = front' ++ '$' :: behind' ∧
          front'.count '$' = front.count '$' ∧
          (Odd (backslashRun front') ↔ front.getLast? = some '\\') := by
  refine ⟨valueChars s.toList, meant s.toList, ?_, fun front behind h ↦ ?_, ?_, read?_value s,
    map_toChar_meant _, fun front behind h ↦ ?_⟩
  · rw [value, String.toList_ofList]
  · rw [← isOpenEscape_iff]
    exact isOpenEscape_of_valueChars_eq h
  · rw [← Nat.not_odd_iff_even, ← isOpenEscape_iff, isOpenEscape_valueChars]
    exact Bool.false_ne_true
  · simp only [← isOpenEscape_iff]
    exact exists_valueChars_eq_dollar h

/-- Quotes, a path, an escaped dollar and one that is not. -/
example : (read? (value "a\"b\\c\\$d$e").toList).map (·.map Glyph.toChar) =
    some "a\"b\\c$d$e".toList := by decide +kernel

end ContainerBuild.Quote
