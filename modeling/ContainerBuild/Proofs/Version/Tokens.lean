import ContainerBuild.Proofs.Text.Words
import ContainerBuild.Version.Constraint

/-!
# The tokens of a constraint

A comma ends a token, so the tokens of a constraint are those of its pieces one after the
other, and its clauses are those of the pieces. A piece has the tokens of its trimmed form, and
an operator in front of a single word makes one token with it, whether blanks stand between
them or not.
-/

namespace ContainerBuild.Constraint

open Comparison (isSymbolChar)
open Text (isBlank trimChars words)

/-- The tokens around a comma. -/
theorem tokens_append_cons_comma (a b : List Char) :
    tokens (a ++ ',' :: b) = tokens a ++ tokens b := by
  rw [tokens, List.splitOn_append_cons_self, List.flatMap_append, tokens, tokens]

/-- The tokens of pieces with commas between them. -/
theorem tokens_intercalate (pieces : List (List Char)) :
    tokens ([','].intercalate pieces) = pieces.flatMap tokens := by
  induction pieces with
  | nil => rfl
  | cons piece rest ih =>
    cases rest with
    | nil => simp
    | cons next rest =>
      rw [List.intercalate_cons_cons, List.append_assoc, List.singleton_append,
        tokens_append_cons_comma, ih, List.flatMap_cons (x := piece)]

/-- The tokens of a piece without commas. -/
theorem tokens_eq_joinWords {piece : List Char} (h : ',' ∉ piece) :
    tokens piece = joinWords [] (words piece) := by
  rw [tokens, List.splitOn_eq_singleton h, List.flatMap_singleton]

/-- The tokens of a text are those of its pieces. -/
theorem tokens_eq_flatMap (s : List Char) : tokens s = (s.splitOn ',').flatMap tokens := by
  have h := tokens_intercalate (s.splitOn ',')
  rwa [List.intercalate_splitOn] at h

/-- Blanks in front of a constraint do not change its tokens. -/
theorem tokens_append_left {a : List Char} (ha : ∀ c ∈ a, isBlank c = true) (s : List Char) :
    tokens (a ++ s) = tokens s := by
  have hcomma : ',' ∉ a := fun hc ↦ by cases ha ',' hc
  by_cases hs : ',' ∈ s
  · obtain ⟨s₁, s₂, rfl, hs₁⟩ := List.eq_append_cons_of_mem hs
    rw [← List.append_assoc, tokens_append_cons_comma, tokens_append_cons_comma,
      tokens_eq_joinWords (by simp [hcomma, hs₁]), tokens_eq_joinWords hs₁,
      Text.words_append_left ha]
  · rw [tokens_eq_joinWords (by simp [hcomma, hs]), tokens_eq_joinWords hs,
      Text.words_append_left ha]

private theorem tokens_append_right {b : List Char} (hb : ∀ c ∈ b, isBlank c = true)
    (s : List Char) :
    tokens (s ++ b) = tokens s := by
  have hcomma : ',' ∉ b := fun hc ↦ by cases hb ',' hc
  by_cases hs : ',' ∈ s
  · -- the comma is the first one, so there may be more behind it: induct on the length
    obtain ⟨s₁, s₂, hs', -⟩ := List.eq_append_cons_of_mem hs
    have hlength : s₂.length < s.length := by
      rw [hs', List.length_append, List.length_cons]
      omega
    rw [hs', List.append_assoc, List.cons_append, tokens_append_cons_comma,
      tokens_append_right hb s₂, tokens_append_cons_comma]
  · rw [tokens_eq_joinWords (by simp [hcomma, hs]), tokens_eq_joinWords hs,
      Text.words_append_right hb]
termination_by s.length

/-- A constraint and its trimmed form have the same tokens. -/
@[simp] theorem tokens_trimChars (s : List Char) : tokens (trimChars s) = tokens s := by
  obtain ⟨a, b, hs, ha, hb⟩ := Text.exists_eq_append_trimChars s
  generalize trimChars s = t at hs
  rw [hs, tokens_append_right hb, tokens_append_left ha]

/-- A sign of an operator is no blank. -/
theorem isBlank_of_isSymbolChar {c : Char} (h : isSymbolChar c = true) : isBlank c = false := by
  simp only [isSymbolChar, Bool.or_eq_true, decide_eq_true_eq] at h
  rcases h with ((((rfl | rfl) | rfl) | rfl) | rfl) | rfl <;> rfl

/-- A word that is no operator ends the token to which it belongs. -/
theorem joinWords_cons {pending word : List Char} (h : ∃ c ∈ word, isSymbolChar c = false)
    (rest : List (List Char)) :
    joinWords pending (word :: rest) = (pending ++ word) :: joinWords [] rest := by
  obtain ⟨c, hc, hsymbol⟩ := h
  have hall : ¬word.all isSymbolChar = true := fun h ↦ by
    rw [List.all_eq_true.mp h c hc] at hsymbol
    cases hsymbol
  rw [joinWords, if_neg hall]

/-- An operator and a word behind it are the first token of a piece, whether blanks stand between
them or not. -/
theorem joinWords_operator {symbol gap word : List Char}
    (hsymbol : ∀ c ∈ symbol, isSymbolChar c = true) (hgap : ∀ c ∈ gap, isBlank c = true)
    (hblank : ∀ c ∈ word, isBlank c = false) (hword : ∃ c ∈ word, isSymbolChar c = false)
    (rest : List (List Char)) :
    joinWords [] (words (symbol ++ (gap ++ word)) ++ rest) =
      (symbol ++ word) :: joinWords [] rest := by
  have hsymbolBlank : ∀ c ∈ symbol, isBlank c = false :=
    fun c hc ↦ isBlank_of_isSymbolChar (hsymbol c hc)
  have hne : word ≠ [] := by
    obtain ⟨c, hc, -⟩ := hword
    exact List.ne_nil_of_mem hc
  cases gap with
  | nil =>
    -- without blanks behind it the operator is no word of its own
    have hwords : words (symbol ++ word) = [symbol ++ word] := by
      refine Text.words_eq_singleton (by simp [hne]) fun c hc ↦ ?_
      rcases List.mem_append.mp hc with hc | hc
      · exact hsymbolBlank c hc
      · exact hblank c hc
    obtain ⟨c, hc, hs⟩ := hword
    rw [List.nil_append, hwords, List.singleton_append,
      joinWords_cons ⟨c, List.mem_append_right _ hc, hs⟩, List.nil_append]
  | cons c gap =>
    have hwords : words (symbol ++ (c :: gap ++ word)) = words symbol ++ [word] := by
      rw [List.cons_append, Text.words_append_cons_blank (hgap c List.mem_cons_self),
        Text.words_append_left fun x hx ↦ hgap x (List.mem_cons_of_mem _ hx),
        Text.words_eq_singleton hne hblank]
    rw [hwords, List.append_assoc, List.singleton_append]
    by_cases hs : symbol = []
    · subst hs
      rw [Text.words_nil, List.nil_append, joinWords_cons hword, List.nil_append]
    · rw [Text.words_eq_singleton hs hsymbolBlank, List.singleton_append, joinWords,
        if_pos (List.all_eq_true.mpr hsymbol), List.nil_append, joinWords_cons hword]

/-- An operator and a single word behind it are one token. -/
theorem tokens_operator_append {symbol rest : List Char}
    (hsymbol : ∀ c ∈ symbol, isSymbolChar c = true) (hcomma : ',' ∉ symbol ++ rest)
    (hblank : ∀ c ∈ trimChars rest, isBlank c = false)
    (hword : ∃ c ∈ trimChars rest, isSymbolChar c = false) :
    tokens (symbol ++ rest) = [symbol ++ trimChars rest] := by
  obtain ⟨a, b, hrest, ha, hb⟩ := Text.exists_eq_append_trimChars rest
  have htoken := joinWords_operator hsymbol ha hblank hword []
  have hwords : words (symbol ++ rest) = words (symbol ++ (a ++ trimChars rest)) := by
    conv_lhs => rw [hrest, ← List.append_assoc, Text.words_append_right hb]
  rw [tokens_eq_joinWords hcomma, hwords]
  rwa [List.append_nil] at htoken

/-- The first token of a piece that begins with a word, and an operator in front of it. -/
theorem tokens_append_cons (symbol : List Char) (hsymbol : ∀ x ∈ symbol, isSymbolChar x = true)
    {c : Char} (hc : isSymbolChar c = false) (hblank : isBlank c = false) {s : List Char}
    (hcomma : ',' ∉ symbol ++ c :: s) :
    tokens (symbol ++ c :: s) = (symbol ++ c :: s.takeWhile (!isBlank ·)) ::
      joinWords [] (words (s.dropWhile (!isBlank ·))) := by
  have hall : ¬(symbol ++ c :: s.takeWhile (!isBlank ·)).all isSymbolChar = true := fun h ↦ by
    have := List.all_eq_true.mp h c (by simp)
    rw [hc] at this
    cases this
  rw [tokens_eq_joinWords hcomma,
    Text.words_append_cons (fun x hx ↦ isBlank_of_isSymbolChar (hsymbol x hx)) hblank,
    joinWords, if_neg hall, List.nil_append]

private theorem map_eq_ok_iff {ε α β : Type} {x : Except ε α} {f : α → β} {b : β} :
    x.map f = .ok b ↔ ∃ a, x = .ok a ∧ f a = b := by
  cases x with
  | error e => simp [Except.map]
  | ok a => simp [Except.map]

/-- The clauses of a token in front of others. -/
theorem clausesOf_cons_eq_ok_iff {token : List Char} (hne : token ≠ ['*'])
    {rest : List (List Char)} {clauses : List Clause} :
    clausesOf (token :: rest) = .ok clauses ↔
      ∃ clause tail, Clause.parse token = .ok clause ∧ clausesOf rest = .ok tail ∧
        clauses = clause :: tail := by
  rw [clausesOf, if_neg hne]
  cases Clause.parse token with
  | error e => simp
  | ok clause =>
    rw [map_eq_ok_iff]
    constructor
    · rintro ⟨tail, ht, rfl⟩
      exact ⟨clause, tail, rfl, ht, rfl⟩
    · rintro ⟨_, tail, hclause, ht, rfl⟩
      cases hclause
      exact ⟨tail, ht, rfl⟩

/-- The clauses of tokens one after the other. -/
theorem clausesOf_append_eq_ok_iff {a b : List (List Char)} {clauses : List Clause} :
    clausesOf (a ++ b) = .ok clauses ↔
      ∃ ca cb, clausesOf a = .ok ca ∧ clausesOf b = .ok cb ∧ clauses = ca ++ cb := by
  induction a generalizing clauses with
  | nil => simp [clausesOf]
  | cons token a ih =>
    rw [List.cons_append]
    by_cases hstar : token = ['*']
    · rw [clausesOf, if_pos hstar, clausesOf, if_pos hstar]
      exact ih
    · simp only [clausesOf_cons_eq_ok_iff hstar, ih]
      constructor
      · rintro ⟨clause, _, hclause, ⟨ca, cb, ha, hb, rfl⟩, rfl⟩
        exact ⟨clause :: ca, cb, ⟨clause, ca, hclause, ha, rfl⟩, hb, rfl⟩
      · rintro ⟨_, cb, ⟨clause, ca, hclause, ha, rfl⟩, hb, rfl⟩
        exact ⟨clause, ca ++ cb, hclause, ⟨ca, cb, ha, hb, rfl⟩, rfl⟩

/-- Reading a constraint of a single line. -/
theorem parse_eq_ok_iff {text : String} (h : '\n' ∉ text.toList) {c : Constraint} :
    parse text = .ok c ↔
      c.text = Text.trim text ∧ clausesOf (tokens text.toList) = .ok c.clauses := by
  have hline : Text.firstLine text = Text.trim text := Text.firstLine_eq_trim h
  simp only [parse, hline, Text.toList_trim, tokens_trimChars]
  cases clausesOf (tokens text.toList) with
  | error e => simp
  | ok clauses =>
    simp only [Except.ok.injEq]
    constructor
    · rintro rfl
      exact ⟨rfl, rfl⟩
    · rintro ⟨ht, rfl⟩
      rw [← ht]

end ContainerBuild.Constraint
