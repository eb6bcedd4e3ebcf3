import ContainerBuild.Proofs.Version.Release
import ContainerBuild.Proofs.Version.Tokens

/-!
# Reading clauses

An operator with a release behind it is read as the clause that it looks like, and a bare
version is read like one behind two equality signs.
-/

namespace ContainerBuild

open Comparison (isSymbolChar)
open Release (isReleaseChar)

namespace Release

/-- A release is written without signs of an operator. -/
theorem isSymbolChar_of_isReleaseChar {c : Char} (h : isReleaseChar c = true) :
    isSymbolChar c = false := by
  simp only [isReleaseChar, Bool.or_eq_true, decide_eq_true_eq] at h
  rcases h with (hdigit | rfl) | rfl
  · obtain ⟨hlow, hhigh⟩ := Text.toNat_of_isDigit hdigit
    simp only [isSymbolChar, Bool.or_eq_false_iff, decide_eq_false_iff_not]
    refine ⟨⟨⟨⟨⟨?_, ?_⟩, ?_⟩, ?_⟩, ?_⟩, ?_⟩ <;> (rintro rfl; revert hlow hhigh; decide)
  · rfl
  · rfl

/-- A release is written without blanks. -/
theorem isBlank_of_isReleaseChar {c : Char} (h : isReleaseChar c = true) :
    Text.isBlank c = false := by
  simp only [isReleaseChar, Bool.or_eq_true, decide_eq_true_eq] at h
  rcases h with (hdigit | rfl) | rfl
  · exact Text.isBlank_of_isDigit hdigit
  · rfl
  · rfl

/-- A release is written in digits, dots and plus signs. -/
theorem isReleaseChar_of_mem_render {r : Release} {c : Char} (h : c ∈ r.render.toList) :
    isReleaseChar c = true := by
  rw [toList_render] at h
  rcases Text.mem_intercalate h with h | ⟨part, hpart, h⟩
  · rw [List.mem_singleton.mp h]
    rfl
  · obtain ⟨n, -, rfl⟩ := List.mem_map.mp hpart
    simp [isReleaseChar, Text.isDigit_of_mem_toDigits h]

end Release

namespace Clause

/-- What stands behind a release for a wildcard. -/
def star (wildcard : Bool) : List Char := if wildcard then ['.', '*'] else []

private theorem cutWildcard_append_star {s : List Char} (h : '*' ∉ s) (wildcard : Bool) :
    cutWildcard (s ++ star wildcard) = (s, wildcard) := by
  rw [cutWildcard]
  cases wildcard with
  | true => simp [star]
  | false =>
    rw [star, if_neg Bool.false_ne_true, List.append_nil]
    split
    · next rest he =>
      have hmem : '*' ∈ s.reverse := he ▸ List.mem_cons_self
      exact absurd (List.mem_reverse.mp hmem) h
    · rfl

/-- Numerals with dots between them have the form of a release. -/
theorem isDotted_intercalate {numerals : List (List Char)} {r : Release} (hne : r ≠ [])
    (h : List.Forall₂ Text.IsNumeral numerals r) :
    isDotted (['.'].intercalate numerals) = true := by
  rw [isDotted, Release.splitOn_intercalate hne h, List.all_eq_true]
  intro part hpart
  obtain ⟨hne, hdigits⟩ := Release.isDigit_of_mem_numerals h part hpart
  rw [Bool.and_eq_true, List.all_eq_true]
  exact ⟨by simpa using hne, hdigits⟩

/-- The text of a release has the form of one. -/
theorem isDotted_render {r : Release} (h : r ≠ []) : isDotted r.render.toList = true := by
  rw [Release.toList_render]
  exact isDotted_intercalate h (Release.forall₂_isNumeral_toDigits r)

/-- A wildcard is a dot and a star. -/
theorem eq_of_mem_star {wildcard : Bool} {c : Char} (h : c ∈ star wildcard) :
    c = '.' ∨ c = '*' := by
  cases wildcard with
  | true => simpa [star] using h
  | false => cases h

/-- The parts of an operator with a release behind it, which a `v` may lead and a wildcard may
follow. -/
theorem parts?_spelled {symbol lead s : List Char}
    (hsymbol : ∀ c ∈ symbol, isSymbolChar c = true) (hlead : lead = [] ∨ lead = ['v'])
    (hs : ∀ c ∈ s, isReleaseChar c = true) (wildcard : Bool) :
    parts? (symbol ++ (lead ++ (s ++ star wildcard))) =
      if isDotted s then some ⟨symbol, s, wildcard⟩ else none := by
  have hstar : '*' ∉ s := fun hc ↦ by cases hs '*' hc
  have hplain : ∀ c ∈ lead ++ (s ++ star wildcard),
      isSymbolChar c = false ∧ Text.isBlank c = false := by
    intro c hc
    rcases List.mem_append.mp hc with hc | hc
    · rcases hlead with rfl | rfl
      · cases hc
      · rw [List.mem_singleton.mp hc]
        exact ⟨rfl, rfl⟩
    · rcases List.mem_append.mp hc with hc | hc
      · exact ⟨Release.isSymbolChar_of_isReleaseChar (hs c hc),
          Release.isBlank_of_isReleaseChar (hs c hc)⟩
      · rcases eq_of_mem_star hc with rfl | rfl <;> exact ⟨rfl, rfl⟩
  have htake : (lead ++ (s ++ star wildcard)).takeWhile isSymbolChar = [] := by
    rw [List.takeWhile_eq_nil_iff]
    intro h
    simp [(hplain _ (List.getElem_mem h)).1]
  have hdrop : (lead ++ (s ++ star wildcard)).dropWhile isSymbolChar =
      lead ++ (s ++ star wildcard) := by
    rw [List.dropWhile_eq_self_iff]
    intro h
    simp [(hplain _ (List.getElem_mem h)).1]
  have hblank : (lead ++ (s ++ star wildcard)).dropWhile Text.isBlank =
      lead ++ (s ++ star wildcard) := by
    rw [List.dropWhile_eq_self_iff]
    intro h
    simp [(hplain _ (List.getElem_mem h)).2]
  simp only [parts?]
  rw [List.takeWhile_append_of_pos hsymbol, List.dropWhile_append_of_pos hsymbol, htake, hdrop,
    hblank, List.append_nil]
  rcases hlead with rfl | rfl
  · rw [List.nil_append]
    split
    · next rest he =>
      -- neither a release nor a wildcard has the letter in it
      have hv : 'v' ∈ s ++ star wildcard := he ▸ List.mem_cons_self
      rcases List.mem_append.mp hv with hv | hv
      · cases hs 'v' hv
      · rcases eq_of_mem_star hv with hv | hv <;> cases hv
    · rw [cutWildcard_append_star hstar]
  · rw [List.singleton_append]
    simp only [cutWildcard_append_star hstar]

/-- The parts of an operator with the text of a release behind it. -/
theorem parts?_append {symbol s : List Char} (hsymbol : ∀ c ∈ symbol, isSymbolChar c = true)
    (hs : ∀ c ∈ s, isReleaseChar c = true) :
    parts? (symbol ++ s) = if isDotted s then some ⟨symbol, s, false⟩ else none := by
  have h := parts?_spelled hsymbol (.inl rfl) hs false
  rwa [star, if_neg Bool.false_ne_true, List.append_nil, List.nil_append] at h

/-- How an operator with the text of a release behind it is read. -/
theorem parse_append {symbol s : List Char} (hsymbol : ∀ c ∈ symbol, isSymbolChar c = true)
    {comparison : Comparison} (hc : Comparison.ofSymbol? symbol = some comparison) {r : Release}
    (hr : Release.parse s = .ok r) :
    parse (symbol ++ s) =
      if isDotted s then
        if comparison = .compatible ∧ r.length < 2 then
          .error (.tooShort (String.ofList (symbol ++ s)))
        else .ok ⟨comparison, r, false⟩
      else .error (.unreadable (String.ofList (symbol ++ s))) := by
  rw [parse, parts?_append hsymbol (Release.isReleaseChar_of_parse hr)]
  split
  · next hp =>
    split at hp
    · cases hp
    · next hd => rw [if_neg hd]
  · next p hp =>
    split at hp
    · next hd =>
      cases hp
      simp only [hc, hr, hd, if_true, Bool.false_and, Bool.false_eq_true, if_false]
    · cases hp

/-- An operator with a writable release behind it is read as that clause. -/
theorem parse_append_render (symbol : List Char) (hsymbol : ∀ c ∈ symbol, isSymbolChar c = true)
    {comparison : Comparison} (hc : Comparison.ofSymbol? symbol = some comparison)
    (hne : comparison ≠ .compatible) {r : Release} (hr : r.IsWritable) :
    parse (symbol ++ r.render.toList) = .ok ⟨comparison, r, false⟩ := by
  rw [parse_append hsymbol hc (Release.parse_render hr), if_pos (isDotted_render hr.ne_nil),
    if_neg fun h ↦ hne h.1]

/-- What is read from an operator with the text of a release behind it. -/
theorem eq_of_parse_append {symbol s : List Char} (hsymbol : ∀ c ∈ symbol, isSymbolChar c = true)
    {comparison : Comparison} (hc : Comparison.ofSymbol? symbol = some comparison) {r : Release}
    (hr : Release.parse s = .ok r) {clause : Clause} (h : parse (symbol ++ s) = .ok clause) :
    clause = ⟨comparison, r, false⟩ := by
  rw [parse_append hsymbol hc hr] at h
  split at h
  · split at h
    · cases h
    · exact (Except.ok.inj h).symm
  · cases h

/-- An operator in front of a bare version changes none of the other parts. -/
theorem parts?_append_cons {symbol : List Char} (hsymbol : ∀ x ∈ symbol, isSymbolChar x = true)
    {c : Char} (hc : isSymbolChar c = false) (s : List Char) :
    parts? (symbol ++ c :: s) = (parts? (c :: s)).map ({ · with symbol }) := by
  have htake : (c :: s).takeWhile isSymbolChar = [] :=
    List.takeWhile_cons_of_neg (by simp [hc])
  have hdrop : (c :: s).dropWhile isSymbolChar = c :: s :=
    List.dropWhile_cons_of_neg (by simp [hc])
  simp only [parts?, List.takeWhile_append_of_pos hsymbol, List.dropWhile_append_of_pos hsymbol,
    htake, hdrop, List.append_nil]
  rw [apply_ite (Option.map _)]
  rfl

private theorem symbol_of_bare {c : Char} (hc : isSymbolChar c = false) {s : List Char} {p : Parts}
    (h : parts? (c :: s) = some p) : p.symbol = [] := by
  have hself := parts?_append_cons (List.forall_mem_nil _) hc s
  rw [List.nil_append, h] at hself
  exact congrArg Parts.symbol (Option.some.inj hself)

/-- A bare version is read like one behind two equality signs. -/
theorem parse_equal_append {c : Char} (hc : Text.isDigit c = true) {s : List Char}
    {clause : Clause} (h : parse (c :: s) = .ok clause) :
    parse (['=', '='] ++ c :: s) = .ok clause := by
  have hsymbol : isSymbolChar c = false :=
    Release.isSymbolChar_of_isReleaseChar (by simp [isReleaseChar, hc])
  rw [parse] at h
  cases hp : parts? (c :: s) with
  | none =>
    simp only [hp] at h
    cases h
  | some p =>
    have hbare : p.symbol = [] := symbol_of_bare hsymbol hp
    have hparts : parts? (['=', '='] ++ c :: s) = some { p with symbol := ['=', '='] } := by
      rw [parts?_append_cons (List.all_eq_true.mp rfl) hsymbol, hp]
      rfl
    simp only [hp, hbare, Comparison.ofSymbol?] at h
    simp only [parse, hparts, Comparison.ofSymbol?]
    cases hr : Release.parse p.release with
    | error e =>
      simp only [hr] at h
      cases h
    | ok r =>
      simp only [hr, Comparison.allowsWildcard, Bool.not_true, Bool.and_false,
        reduceCtorEq, false_and, if_false, Bool.false_eq_true] at h ⊢
      exact h

end Clause

namespace Constraint

open Text (trimChars)

/-- An operator and a release behind it are one token, whether blanks stand around the release
or not. -/
theorem tokens_append_release {symbol rest : List Char}
    (hsymbol : ∀ c ∈ symbol, isSymbolChar c = true) (hcomma : ',' ∉ rest) {r : Release}
    (hr : Release.parse (trimChars rest) = .ok r) :
    tokens (symbol ++ rest) = [symbol ++ trimChars rest] := by
  have hchars := Release.isReleaseChar_of_parse hr
  have hcomma' : ',' ∉ symbol ++ rest := fun hc ↦ by
    rcases List.mem_append.mp hc with hc | hc
    · cases hsymbol ',' hc
    · exact hcomma hc
  refine tokens_operator_append hsymbol hcomma'
    (fun c hc ↦ Release.isBlank_of_isReleaseChar (hchars c hc)) ?_
  obtain ⟨c, hc⟩ := List.exists_mem_of_ne_nil _ (Release.parse_eq_ok_iff.mp hr).1
  exact ⟨c, hc, Release.isSymbolChar_of_isReleaseChar (hchars c hc)⟩

/-- An operator and a writable release behind it are one token. -/
theorem tokens_append_render {symbol : List Char}
    (hsymbol : ∀ c ∈ symbol, isSymbolChar c = true) {r : Release} (hr : r.IsWritable) :
    tokens (symbol ++ r.render.toList) = [symbol ++ r.render.toList] := by
  have hself : trimChars r.render.toList = r.render.toList :=
    Text.trimChars_eq_self
      (fun h ↦ Release.isBlank_of_isReleaseChar
        (Release.isReleaseChar_of_mem_render (List.head_mem h)))
      (fun h ↦ Release.isBlank_of_isReleaseChar
        (Release.isReleaseChar_of_mem_render (List.getLast_mem h)))
  have hparse : Release.parse (trimChars r.render.toList) = .ok r := by
    rw [hself, Release.parse_render hr]
  have hcomma : ',' ∉ r.render.toList := fun hc ↦ by
    cases Release.isReleaseChar_of_mem_render hc
  rw [tokens_append_release hsymbol hcomma hparse, hself]

end Constraint

end ContainerBuild
