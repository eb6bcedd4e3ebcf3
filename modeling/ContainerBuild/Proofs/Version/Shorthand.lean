import ContainerBuild.Proofs.Version.Clause
import ContainerBuild.Version.Shorthand

/-!
# Shorthand is expanded without a change of meaning

The expansion works on the pieces between commas, reading a constraint works on tokens. Piece by
piece, the tokens of the expansion are clauses that allow the same versions: a caret or a tilde
in front of a release becomes the two ends of its range, a bare version gets the operator that it
is read with, and every other piece is left alone.
-/

namespace ContainerBuild

open Comparison (isSymbolChar)
open Text (trimChars)

namespace Constraint

/-- Whether tokens are read as clauses that allow the same versions as some clauses do. -/
def AsksFor (tokens : List (List Char)) (clauses : List Clause) : Prop :=
  ∃ read, clausesOf tokens = .ok read ∧
    ∀ v, read.all (·.allows v) = clauses.all (·.allows v)

namespace AsksFor

/-- Tokens ask for what they are read as. -/
theorem of_clausesOf {tokens : List (List Char)} {clauses : List Clause}
    (h : clausesOf tokens = .ok clauses) : AsksFor tokens clauses :=
  ⟨clauses, h, fun _ ↦ rfl⟩

private theorem append {a b : List (List Char)} {ca cb : List Clause} (ha : AsksFor a ca)
    (hb : AsksFor b cb) : AsksFor (a ++ b) (ca ++ cb) := by
  obtain ⟨ra, hra, hva⟩ := ha
  obtain ⟨rb, hrb, hvb⟩ := hb
  refine ⟨ra ++ rb, clausesOf_append_eq_ok_iff.mpr ⟨ra, rb, hra, hrb, rfl⟩, fun v ↦ ?_⟩
  rw [List.all_append, List.all_append, hva, hvb]

end AsksFor

end Constraint

namespace Version.Shorthand

open Constraint (AsksFor tokens clausesOf)

private theorem tokens_range {lower upper : Release} (hl : lower.IsWritable)
    (hu : upper.IsWritable) :
    tokens (">=".toList ++ lower.render.toList ++ ",<".toList ++ upper.render.toList) =
      [['>', '='] ++ lower.render.toList, ['<'] ++ upper.render.toList] := by
  have htext : ">=".toList ++ lower.render.toList ++ ",<".toList ++ upper.render.toList =
      (['>', '='] ++ lower.render.toList) ++ ',' :: (['<'] ++ upper.render.toList) := by
    simp
  rw [htext, Constraint.tokens_append_cons_comma,
    Constraint.tokens_append_render (List.all_eq_true.mp rfl) hl,
    Constraint.tokens_append_render (List.all_eq_true.mp rfl) hu, List.singleton_append]

private theorem asksFor_range {sign : Char} (hsign : isSymbolChar sign = true)
    {comparison : Comparison}
    (hc : Comparison.ofSymbol? [sign] = some comparison) {upper : Release → Release}
    (hupper : ∀ {r : Release}, r.IsWritable → r.HasRoom → (upper r).IsWritable)
    (hallows : ∀ (r : Release) v, (⟨comparison, r, false⟩ : Clause).allows v =
      (decide (r.toVersion ≤ v) && decide (v < (upper r).toVersion)))
    {rest : List Char} (hcomma : ',' ∉ sign :: rest) {clauses : List Clause}
    (h : clausesOf (tokens (sign :: rest)) = .ok clauses)
    (hroom : ∀ clause ∈ clauses, clause.release.HasRoom) :
    AsksFor (tokens (range upper (sign :: rest) rest)) clauses := by
  rw [range]
  split
  · next r hr =>
    -- a release follows the sign, so the piece is one token and one clause
    have hsymbol : ∀ c ∈ [sign], isSymbolChar c = true := List.forall_mem_singleton.mpr hsign
    have htoken : tokens (sign :: rest) = [[sign] ++ trimChars rest] :=
      Constraint.tokens_append_release hsymbol (fun hc ↦ hcomma (List.mem_cons_of_mem _ hc)) hr
    have hstar : [sign] ++ trimChars rest ≠ ['*'] := by
      rintro he
      obtain rfl : sign = '*' := (List.cons.inj he).1
      cases hsign
    rw [htoken, Constraint.clausesOf_cons_eq_ok_iff hstar] at h
    obtain ⟨clause, tail, hclause, htail, rfl⟩ := h
    obtain rfl : tail = [] := (Except.ok.inj htail).symm
    obtain rfl := Clause.eq_of_parse_append hsymbol hc hr hclause
    have hlower : r.IsWritable := Release.isWritable_of_parse hr
    have hend : (upper r).IsWritable := hupper hlower (hroom _ List.mem_cons_self)
    rw [tokens_range hlower hend]
    refine ⟨[⟨.atLeast, r, false⟩, ⟨.below, upper r, false⟩], ?_, fun v ↦ ?_⟩
    · have hge := Clause.parse_append_render ['>', '='] (List.all_eq_true.mp rfl) rfl
        (by decide) hlower
      have hlt := Clause.parse_append_render ['<'] (List.all_eq_true.mp rfl) rfl
        (by decide) hend
      rw [Constraint.clausesOf_cons_eq_ok_iff (by simp)]
      refine ⟨_, _, hge, ?_, rfl⟩
      rw [Constraint.clausesOf_cons_eq_ok_iff (by simp)]
      exact ⟨_, _, hlt, rfl, rfl⟩
    · simp only [List.all_cons, List.all_nil, Bool.and_true, hallows]
      rfl
  · exact .of_clausesOf h

private theorem asksFor_equal {c : Char} (hc : Text.isDigit c = true) {rest : List Char}
    (hcomma : ',' ∉ c :: rest) {clauses : List Clause}
    (h : clausesOf (tokens (c :: rest)) = .ok clauses) :
    AsksFor (tokens (['=', '='] ++ c :: rest)) clauses := by
  have hsymbol : isSymbolChar c = false :=
    Release.isSymbolChar_of_isReleaseChar (by simp [Release.isReleaseChar, hc])
  have hblank : Text.isBlank c = false := Text.isBlank_of_isDigit hc
  have htokens := Constraint.tokens_append_cons [] (by simp) hsymbol hblank hcomma
  have hequal := Constraint.tokens_append_cons ['=', '='] (List.all_eq_true.mp rfl) hsymbol
    hblank (by simpa using hcomma)
  have hstar : c ≠ '*' := by
    rintro rfl
    cases hc
  rw [List.nil_append, List.nil_append] at htokens
  rw [htokens, Constraint.clausesOf_cons_eq_ok_iff (by simp [hstar])] at h
  obtain ⟨clause, tail, hclause, htail, rfl⟩ := h
  refine .of_clausesOf ?_
  rw [hequal, Constraint.clausesOf_cons_eq_ok_iff (by simp)]
  exact ⟨clause, tail, Clause.parse_equal_append hc hclause, htail, rfl⟩

private theorem asksFor_expandPiece {piece : List Char} (hcomma : ',' ∉ piece)
    {clauses : List Clause} (h : clausesOf (tokens piece) = .ok clauses)
    (hroom : ∀ clause ∈ clauses, clause.release.HasRoom) :
    AsksFor (tokens (expandPiece piece)) clauses := by
  unfold expandPiece
  split
  · exact asksFor_range rfl rfl Release.isWritable_caretUpper (fun _ _ ↦ rfl) hcomma h hroom
  · exact .of_clausesOf h
  · exact asksFor_range rfl rfl Release.isWritable_tildeUpper (fun _ _ ↦ rfl) hcomma h hroom
  · split
    · next hdigit => exact asksFor_equal hdigit hcomma h
    · exact .of_clausesOf h
  · exact .of_clausesOf h

private theorem asksFor_map_expandPiece {ps : List (List Char)} (hcomma : ∀ p ∈ ps, ',' ∉ p)
    {clauses : List Clause} (h : clausesOf (ps.flatMap tokens) = .ok clauses)
    (hroom : ∀ clause ∈ clauses, clause.release.HasRoom) :
    AsksFor ((((ps.map trimChars).filter fun piece ↦ piece ≠ [] && piece ≠ ['*']).map
      expandPiece).flatMap tokens) clauses := by
  induction ps generalizing clauses with
  | nil => exact .of_clausesOf h
  | cons p ps ih =>
    rw [List.flatMap_cons, ← Constraint.tokens_trimChars,
      Constraint.clausesOf_append_eq_ok_iff] at h
    obtain ⟨first, rest, hfirst, hrest, rfl⟩ := h
    have hps := ih (fun q hq ↦ hcomma q (List.mem_cons_of_mem _ hq)) hrest
      fun clause hc ↦ hroom clause (List.mem_append_right _ hc)
    have hp : ',' ∉ trimChars p := fun hc ↦
      hcomma p List.mem_cons_self (Text.mem_of_mem_trimChars hc)
    rw [List.map_cons, List.filter_cons]
    generalize trimChars p = piece at *
    by_cases hnil : piece = []
    · obtain rfl : first = [] := by
        rw [hnil] at hfirst
        exact (Except.ok.inj hfirst).symm
      rw [if_neg (by simp [hnil])]
      exact hps
    · by_cases hstar : piece = ['*']
      · obtain rfl : first = [] := by
          rw [hstar] at hfirst
          exact (Except.ok.inj hfirst).symm
        rw [if_neg (by simp [hstar])]
        exact hps
      · rw [if_pos (by simp [hnil, hstar]), List.map_cons, List.flatMap_cons]
        exact (asksFor_expandPiece hp hfirst fun clause hc ↦
          hroom clause (List.mem_append_left _ hc)).append hps

/-- The text of an expansion, as characters. -/
theorem toList_expand (text : String) :
    (expand text).toList = [','].intercalate ((pieces text.toList).map expandPiece) := by
  rw [expand, String.toList_ofList]

private theorem newline_not_mem_expandPiece {piece : List Char} (h : '\n' ∉ piece) :
    '\n' ∉ expandPiece piece := by
  have hrange : ∀ (upper : Release → Release) (written : List Char),
      '\n' ∉ range upper piece written := by
    intro upper written
    rw [range]
    split
    · have hrender : ∀ r : Release, '\n' ∉ r.render.toList := fun r hc ↦ by
        cases Release.isReleaseChar_of_mem_render hc
      simp [hrender]
    · exact h
  unfold expandPiece
  split
  · exact hrange _ _
  · exact h
  · exact hrange _ _
  · split
    · simpa using h
    · exact h
  · exact h

private theorem newline_not_mem_expand {text : String} (h : '\n' ∉ text.toList) :
    '\n' ∉ (expand text).toList := by
  intro hc
  rw [toList_expand] at hc
  rcases Text.mem_intercalate hc with hc | ⟨expanded, hexpanded, hc⟩
  · cases List.mem_singleton.mp hc
  · obtain ⟨piece, hpiece, rfl⟩ := List.mem_map.mp hexpanded
    obtain ⟨p, hp, rfl⟩ := List.mem_map.mp (List.mem_of_mem_filter hpiece)
    refine newline_not_mem_expandPiece (fun hn ↦ h ?_) hc
    have hs : [','].intercalate (text.toList.splitOn ',') = text.toList :=
      List.intercalate_splitOn ','
    rw [← hs]
    exact Text.mem_intercalate_of_mem hp (Text.mem_of_mem_trimChars hn)

/-- The expansion of a readable constraint of a single line is readable, and both allow the same
versions, as long as no number is the largest one. -/
theorem parse_expand {text : String} (hline : '\n' ∉ text.toList) {c : Constraint}
    (h : Constraint.parse text = .ok c)
    (hroom : ∀ clause ∈ c.clauses, ∀ n ∈ clause.release, n < Release.componentLimit) :
    ∃ expanded, Constraint.parse (expand text) = .ok expanded ∧
      ∀ v, expanded.allows v = c.allows v := by
  obtain ⟨-, hclauses⟩ := (Constraint.parse_eq_ok_iff hline).mp h
  rw [Constraint.tokens_eq_flatMap] at hclauses
  obtain ⟨clauses, hread, hallows⟩ := asksFor_map_expandPiece
    (fun p hp ↦ Text.not_mem_of_mem_splitOn hp) hclauses hroom
  rw [← Constraint.tokens_intercalate] at hread
  refine ⟨⟨Text.trim (expand text), clauses⟩, ?_, hallows⟩
  rw [Constraint.parse_eq_ok_iff (newline_not_mem_expand hline), toList_expand]
  exact ⟨rfl, hread⟩

/-- Pieces of every kind, with blanks and a leading zero. -/
theorem parse_expand_mixed :
    let text := " ^3.08, ~ 3.9 ,*, 3.* !=3.9.1"
    let c : Constraint := ⟨"^3.08, ~ 3.9 ,*, 3.* !=3.9.1",
      [⟨.caret, [3, 8], false⟩, ⟨.tilde, [3, 9], false⟩, ⟨.equal, [3], true⟩,
        ⟨.unequal, [3, 9, 1], false⟩]⟩
    Constraint.parse text = .ok c ∧
      expand text = ">=3.8,<4.0,>=3.9,<3.10,==3.* !=3.9.1" ∧
      ∃ expanded, Constraint.parse (expand text) = .ok expanded ∧
        ∀ v, expanded.allows v = c.allows v := by
  intro text c
  have hline : '\n' ∉ text.toList := by decide
  have hc : Constraint.parse text = .ok c := by
    rw [Constraint.parse_eq_ok_iff hline]
    exact ⟨by decide, by decide⟩
  exact ⟨hc, by decide, parse_expand hline hc (by decide)⟩

end Version.Shorthand

end ContainerBuild
