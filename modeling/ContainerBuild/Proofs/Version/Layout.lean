import ContainerBuild.Proofs.Version.Written

/-!
# The layout of a constraint

A clause is spelled as an operator, perhaps blanks, and a release, perhaps with a wildcard. A
constraint lists clauses with separators, which are commas and blanks, between them; separators
and lone stars may stand around them. However the clauses are laid out, they are read one by one.
-/

namespace ContainerBuild

open Comparison (isSymbolChar)
open Release (isReleaseChar)
open Text (isBlank words)

namespace Comparison

/-- Operators are made of signs. -/
theorem isSymbolChar_of_ofSymbol? {symbol : List Char} {comparison : Comparison}
    (h : ofSymbol? symbol = some comparison) : ∀ c ∈ symbol, isSymbolChar c = true := by
  rw [← List.all_eq_true]
  unfold ofSymbol? at h
  split at h <;> first | rfl | cases h

end Comparison

namespace Clause

/-- The clauses that can be read: a release of one to three numbers that are not too large, of at
least two behind the operator that needs them, and a wildcard only where it may stand. -/
structure IsWellFormed (c : Clause) : Prop where
  isWritable : c.release.IsWritable
  allowsWildcard : c.wildcard = true → c.comparison.allowsWildcard = true
  two_le_length : c.comparison = .compatible → 2 ≤ c.release.length

/-- A text gives a clause: an operator, blanks, the numbers of the release, and the wildcard. -/
def IsSpelled (c : Clause) (text : List Char) : Prop :=
  c.IsWellFormed ∧ ∃ symbol gap version, Comparison.ofSymbol? symbol = some c.comparison ∧
    (∀ x ∈ gap, isBlank x = true) ∧ c.release.IsSpelled version ∧
    text = symbol ++ (gap ++ (version.toList ++ star c.wildcard))

variable {c : Clause} {symbol : List Char} {version : String}

private theorem parse_of_isSpelled (hc : c.IsWellFormed)
    (hsymbol : Comparison.ofSymbol? symbol = some c.comparison)
    (hversion : c.release.IsSpelled version) :
    parse (symbol ++ (version.toList ++ star c.wildcard)) = .ok c := by
  obtain ⟨lead, numerals, hlead, hnumerals, htext⟩ := hversion
  have hparse := Release.parse_intercalate hc.isWritable hnumerals
  have hparts := parts?_spelled (Comparison.isSymbolChar_of_ofSymbol? hsymbol) hlead
    (Release.isReleaseChar_of_parse hparse) c.wildcard
  rw [if_pos (isDotted_intercalate hc.isWritable.ne_nil hnumerals)] at hparts
  have hwildcard : ¬(c.wildcard && !c.comparison.allowsWildcard) = true := by
    intro h
    rw [Bool.and_eq_true, Bool.not_eq_true'] at h
    rw [hc.allowsWildcard h.1] at h
    cases h.2
  have hlength : ¬(c.comparison = .compatible ∧ c.release.length < 2) := by
    rintro ⟨hcompatible, hlt⟩
    have := hc.two_le_length hcompatible
    omega
  rw [htext, List.append_assoc, parse, hparts]
  simp only [hsymbol, hparse]
  rw [if_neg hwildcard, if_neg hlength]

/-- A spelled release with its wildcard has neither blanks nor commas in it, and it is not made of
signs only. -/
theorem of_isSpelled_release (hr : c.release.IsWritable) (h : c.release.IsSpelled version) :
    (∀ x ∈ version.toList ++ star c.wildcard, isBlank x = false ∧ x ≠ ',') ∧
      ∃ x ∈ version.toList ++ star c.wildcard, isSymbolChar x = false := by
  obtain ⟨hne, hchars⟩ := h.of_isWritable hr
  constructor
  · intro x hx
    rcases List.mem_append.mp hx with hx | hx
    · rcases hchars x hx with rfl | hx
      · decide
      · refine ⟨Release.isBlank_of_isReleaseChar hx, ?_⟩
        rintro rfl
        cases hx
    · rcases eq_of_mem_star hx with rfl | rfl <;> decide
  · obtain ⟨x, hx⟩ := List.exists_mem_of_ne_nil _ hne
    refine ⟨x, List.mem_append_left _ hx, ?_⟩
    rcases hchars x hx with rfl | hx
    · rfl
    · exact Release.isSymbolChar_of_isReleaseChar hx

end Clause

namespace Constraint

/-- The characters that divide clauses. -/
def isSeparator (c : Char) : Bool := c = ',' || isBlank c

/-- Whether what follows an entry is divided from it. -/
def isApart : List Char → Bool
  | [] => true
  | c :: _ => isSeparator c

/-- A text lists clauses, each with the way in which it is spelled there. -/
inductive Lists : List (Clause × List Char) → List Char → Prop
  | nil : Lists [] []
  | separator {clauses s} {c : Char} (hc : isSeparator c = true) (h : Lists clauses s) :
    Lists clauses (c :: s)
  | star {clauses s} (hs : isApart s = true) (h : Lists clauses s) : Lists clauses ('*' :: s)
  | clause {clauses s} {clause : Clause} {spelling : List Char}
    (hspelling : clause.IsSpelled spelling) (hs : isApart s = true) (h : Lists clauses s) :
    Lists ((clause, spelling) :: clauses) (spelling ++ s)

/-- A separator makes no token. -/
theorem tokens_separator {c : Char} (hc : isSeparator c = true) (s : List Char) :
    tokens (c :: s) = tokens s := by
  rw [isSeparator, Bool.or_eq_true, decide_eq_true_eq] at hc
  rcases hc with rfl | hc
  · exact tokens_append_cons_comma [] s
  · exact tokens_append_left (List.forall_mem_singleton.mpr hc) s

/-- A piece that makes one token in front of all other words makes it in front of all that is
divided from the piece. -/
theorem tokens_append_of_isApart {piece token s : List Char} (hcomma : ',' ∉ piece)
    (hpiece : ∀ rest, joinWords [] (words piece ++ rest) = token :: joinWords [] rest)
    (hs : isApart s = true) : tokens (piece ++ s) = token :: tokens s := by
  have hself : tokens piece = [token] := by
    have h := hpiece []
    rwa [List.append_nil, ← tokens_eq_joinWords hcomma] at h
  cases s with
  | nil => rw [List.append_nil, hself]; rfl
  | cons c s =>
    have hc : isSeparator c = true := hs
    rw [tokens_separator hc]
    rw [isSeparator, Bool.or_eq_true, decide_eq_true_eq] at hc
    rcases hc with rfl | hc
    · rw [tokens_append_cons_comma, hself, List.singleton_append]
    · -- blanks divide words only up to the next comma
      have hfront {t : List Char} (ht : ',' ∉ t) :
          tokens (piece ++ c :: t) = token :: tokens t := by
        have hcomma' : ',' ∉ piece ++ c :: t := by
          rw [List.mem_append, List.mem_cons, not_or, not_or]
          refine ⟨hcomma, ?_, ht⟩
          rintro rfl
          cases hc
        rw [tokens_eq_joinWords hcomma', Text.words_append_cons_blank hc, hpiece,
          tokens_eq_joinWords ht]
      by_cases hmem : ',' ∈ s
      · obtain ⟨s₁, s₂, rfl, hs₁⟩ := List.eq_append_cons_of_mem hmem
        rw [← List.cons_append, ← List.append_assoc, tokens_append_cons_comma, hfront hs₁,
          tokens_append_cons_comma, List.cons_append]
      · exact hfront hmem

private theorem tokens_append_of_isSpelled {clause : Clause} {spelling s : List Char}
    (h : clause.IsSpelled spelling) (hs : isApart s = true) :
    ∃ token, token ≠ ['*'] ∧ Clause.parse token = .ok clause ∧
      tokens (spelling ++ s) = token :: tokens s := by
  obtain ⟨hclause, symbol, gap, version, hsymbol, hgap, hversion, rfl⟩ := h
  have hsigns := Comparison.isSymbolChar_of_ofSymbol? hsymbol
  have hread := Clause.parse_of_isSpelled hclause hsymbol hversion
  obtain ⟨hplain, hword⟩ := Clause.of_isSpelled_release hclause.isWritable hversion
  refine ⟨_, ?_, hread, tokens_append_of_isApart ?_
    (joinWords_operator hsigns hgap (fun x hx ↦ (hplain x hx).1) hword) hs⟩
  · intro hstar
    rw [hstar] at hread
    cases hread
  · intro hc
    rcases List.mem_append.mp hc with hc | hc
    · cases hsigns ',' hc
    · rcases List.mem_append.mp hc with hc | hc
      · cases hgap ',' hc
      · exact (hplain ',' hc).2 rfl

private theorem Lists.clausesOf_tokens {clauses : List (Clause × List Char)} {s : List Char}
    (h : Lists clauses s) : clausesOf (tokens s) = .ok (clauses.map Prod.fst) := by
  induction h with
  | nil => rfl
  | separator hc _ ih => rw [tokens_separator hc, ih]
  | @star _ s hs _ ih =>
    have hpiece (rest) : joinWords [] (words ['*'] ++ rest) = ['*'] :: joinWords [] rest := by
      have hwords : words ['*'] = [['*']] := by decide
      rw [hwords]
      exact joinWords_cons ⟨'*', List.mem_cons_self, rfl⟩ rest
    have htokens : tokens ('*' :: s) = ['*'] :: tokens s :=
      tokens_append_of_isApart (by decide) hpiece hs
    rw [htokens, clausesOf, if_pos rfl, ih]
  | clause hspelling hs _ ih =>
    obtain ⟨token, hne, hread, htokens⟩ := tokens_append_of_isSpelled hspelling hs
    rw [htokens, clausesOf_cons_eq_ok_iff hne]
    exact ⟨_, _, hread, ih, rfl⟩

private theorem Lists.of_mem {clauses : List (Clause × List Char)} {s : List Char}
    (h : Lists clauses s)
    {p : Clause × List Char} (hp : p ∈ clauses) : p.1.IsSpelled p.2 ∧ p.2 ⊆ s := by
  induction h with
  | nil => cases hp
  | separator _ _ ih => exact ⟨(ih hp).1, List.subset_cons_of_subset _ (ih hp).2⟩
  | star _ _ ih => exact ⟨(ih hp).1, List.subset_cons_of_subset _ (ih hp).2⟩
  | clause hspelling _ _ ih =>
    rcases List.mem_cons.mp hp with rfl | hp
    · exact ⟨hspelling, List.subset_append_left _ _⟩
    · exact ⟨(ih hp).1, List.subset_append_of_subset_right _ (ih hp).2⟩

/-- A line that lists clauses is read as these clauses. -/
theorem Lists.parse_eq {clauses : List (Clause × List Char)} {text : String}
    (hline : '\n' ∉ text.toList) (h : Lists clauses text.toList) :
    Constraint.parse text = .ok ⟨Text.trim text, clauses.map Prod.fst⟩ :=
  (parse_eq_ok_iff hline).mpr ⟨rfl, h.clausesOf_tokens⟩

/-- A spelled clause is a constraint of its own. -/
theorem parse_spelling {clause : Clause} {spelling : List Char} (hline : '\n' ∉ spelling)
    (h : clause.IsSpelled spelling) :
    Constraint.parse (String.ofList spelling) =
      .ok ⟨Text.trim (String.ofList spelling), [clause]⟩ := by
  have hlists : Lists [(clause, spelling)] (String.ofList spelling).toList := by
    have hself := Lists.clause h rfl .nil
    rw [List.append_nil] at hself
    rwa [String.toList_ofList]
  exact hlists.parse_eq (by rwa [String.toList_ofList])

/-- A line that lists clauses is read, whatever separators and stars stand between and around
them. Each clause can be read alone as it is spelled there, and the line allows a version exactly
when each of these does. -/
theorem parse_of_lists {clauses : List (Clause × List Char)} {text : String}
    (hline : '\n' ∉ text.toList) (h : Lists clauses text.toList) :
    ∃ (c : Constraint) (alone : List Constraint), Constraint.parse text = .ok c ∧
      List.Forall₂ (fun p a ↦ Constraint.parse (String.ofList p.2) = .ok a ∧ a.clauses = [p.1])
        clauses alone ∧
      ∀ v, c.allows v = true ↔ ∀ a ∈ alone, a.allows v = true := by
  refine ⟨_, clauses.map fun p ↦ ⟨Text.trim (String.ofList p.2), [p.1]⟩, h.parse_eq hline, ?_,
    fun v ↦ ?_⟩
  · rw [List.forall₂_map_right_iff, List.forall₂_same]
    intro p hp
    obtain ⟨hspelled, hsub⟩ := h.of_mem hp
    exact ⟨parse_spelling (fun hn ↦ hline (hsub hn)) hspelled, rfl⟩
  · rw [List.forall_mem_map]
    simp [Constraint.allows]

/-- Two clauses between stars, with blanks behind an operator, a letter and a zero too many. -/
theorem parse_of_lists_stars :
    let text := "*,\t>= v3.08 , !=3.9.* *"
    let clauses : List (Clause × List Char) :=
      [(⟨.atLeast, [3, 8], false⟩, ">= v3.08".toList), (⟨.unequal, [3, 9], true⟩, "!=3.9.*".toList)]
    '\n' ∉ text.toList ∧ Lists clauses text.toList ∧
      ∃ (c : Constraint) (alone : List Constraint), Constraint.parse text = .ok c ∧
        List.Forall₂ (fun p a ↦ Constraint.parse (String.ofList p.2) = .ok a ∧ a.clauses = [p.1])
          clauses alone ∧
        ∀ v, c.allows v = true ↔ ∀ a ∈ alone, a.allows v = true := by
  intro text clauses
  have hline : '\n' ∉ text.toList := by decide
  have hfirst : (⟨.atLeast, [3, 8], false⟩ : Clause).IsSpelled ">= v3.08".toList := by
    refine ⟨⟨⟨by decide, by decide, by decide⟩, by decide, by decide⟩, ['>', '='], [' '], "v3.08",
      rfl, List.all_eq_true.mp rfl, ⟨['v'], [['3'], ['0', '8']], .inr rfl, ?_, by decide⟩,
      by decide⟩
    exact .cons ⟨0, by decide⟩ (.cons ⟨1, by decide⟩ .nil)
  have hsecond : (⟨.unequal, [3, 9], true⟩ : Clause).IsSpelled "!=3.9.*".toList := by
    refine ⟨⟨⟨by decide, by decide, by decide⟩, by decide, by decide⟩, ['!', '='], [], "3.9",
      rfl, List.all_eq_true.mp rfl, ⟨[], [['3'], ['9']], .inl rfl, ?_, by decide⟩, by decide⟩
    exact .cons ⟨0, by decide⟩ (.cons ⟨0, by decide⟩ .nil)
  have hlists : Lists clauses text.toList := by
    have htext : text.toList = '*' :: ',' :: '\t' :: (">= v3.08".toList ++
      ' ' :: ',' :: ' ' :: ("!=3.9.*".toList ++ [' ', '*'])) := by decide
    rw [htext]
    exact .star rfl (.separator rfl (.separator rfl (.clause hfirst rfl
      (.separator rfl (.separator rfl (.separator rfl (.clause hsecond rfl
        (.separator rfl (.star rfl .nil)))))))))
  exact ⟨hline, hlists, parse_of_lists hline hlists⟩

end Constraint

end ContainerBuild
