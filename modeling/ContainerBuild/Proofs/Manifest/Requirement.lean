import ContainerBuild.Manifest.Declaration
import ContainerBuild.Proofs.Version.Clause

/-!
# The clauses of a requirement

Behind a package, a requirement has plain clauses with commas between them, those whose operator is
no shorthand. A constraint leads to plain clauses only exactly when each of its pieces between
commas is one plain clause, a bare version, or a caret or a tilde in front of a release. Every other
piece stays as it is, although reading a constraint would tell its clauses apart at the blanks.
-/

namespace ContainerBuild

open Comparison (isSymbolChar)
open Text (isDigit trimChars)

namespace Clause

/-- The operators that are no shorthand. -/
def plainSymbols : List (List Char) :=
  [['=', '=', '='], ['=', '='], ['!', '='], ['~', '='], ['>', '='], ['<', '='], ['>'], ['<']]

/-- Whether a text is a single clause behind an operator that is no shorthand. -/
def IsPlain (s : List Char) : Prop := ∃ p ∈ parts? s, p.symbol ∈ plainSymbols

instance : DecidablePred IsPlain := fun s ↦
  inferInstanceAs (Decidable (∃ p ∈ parts? s, p.symbol ∈ plainSymbols))

/-- The operators that are no shorthand are made of the signs of operators. -/
theorem isSymbolChar_of_mem_plainSymbols {symbol : List Char} (h : symbol ∈ plainSymbols) :
    ∀ c ∈ symbol, isSymbolChar c = true := by
  have hall : plainSymbols.all (·.all isSymbolChar) = true := by decide
  exact List.all_eq_true.mp (List.all_eq_true.mp hall symbol h)

private theorem isPlain_append_render {symbol : List Char} (h : symbol ∈ plainSymbols) {r : Release}
    (hr : r ≠ []) : IsPlain (symbol ++ r.render.toList) := by
  refine ⟨⟨symbol, r.render.toList, false⟩, ?_, h⟩
  rw [Option.mem_def, parts?_append (isSymbolChar_of_mem_plainSymbols h)
    fun c hc ↦ Release.isReleaseChar_of_mem_render hc, if_pos (isDotted_render hr)]

private theorem isPlain_append_iff {symbol : List Char} (h : symbol ∈ plainSymbols) {c : Char}
    (hc : isSymbolChar c = false) (s : List Char) :
    IsPlain (symbol ++ c :: s) ↔ ∃ p, parts? (c :: s) = some p := by
  rw [IsPlain, parts?_append_cons (isSymbolChar_of_mem_plainSymbols h) hc]
  cases parts? (c :: s) with
  | none => simp
  | some p => simp [h]

private theorem IsPlain.exists_isPrefix {s : List Char} (h : IsPlain s) :
    ∃ symbol ∈ plainSymbols, symbol <+: s := by
  obtain ⟨p, hp, hsymbol⟩ := h
  simp only [parts?, Option.mem_def, Option.ite_none_right_eq_some, Option.some.injEq] at hp
  obtain ⟨-, rfl⟩ := hp
  exact ⟨_, hsymbol, List.takeWhile_prefix _⟩

private theorem IsPlain.head {c : Char} {s : List Char} (h : IsPlain (c :: s)) :
    isSymbolChar c = true ∧ c ≠ '^' ∧ (c = '~' → s.head? = some '=') := by
  obtain ⟨symbol, hsymbol, t, ht⟩ := h.exists_isPrefix
  simp only [plainSymbols, List.mem_cons, List.not_mem_nil, or_false] at hsymbol
  rcases hsymbol with rfl | rfl | rfl | rfl | rfl | rfl | rfl | rfl <;>
    (obtain ⟨rfl, rfl⟩ := List.cons.inj ht; simp [isSymbolChar])

end Clause

namespace Version.Shorthand

open Clause (IsPlain plainSymbols)

/-- The pieces that the expansion knows: a plain clause, a bare version, and a caret or a tilde in
front of a release. -/
inductive IsTranslatable : List Char → Prop where
  | plain {piece : List Char} (h : IsPlain piece) : IsTranslatable piece
  | bare {c : Char} {rest : List Char} {p : Clause.Parts} (hdigit : isDigit c = true)
      (hparts : Clause.parts? (c :: rest) = some p) : IsTranslatable (c :: rest)
  | range {sign : Char} {rest : List Char} {r : Release} (hsign : sign = '^' ∨ sign = '~')
      (hr : Release.parse (trimChars rest) = .ok r) : IsTranslatable (sign :: rest)

private theorem caretUpper_ne_nil (r : Release) : r.caretUpper ≠ [] := by
  simp only [Release.caretUpper]
  split
  · simp
  · next h =>
    rintro hnil
    simp [hnil] at h

private theorem tildeUpper_ne_nil (r : Release) : r.tildeUpper ≠ [] := by
  unfold Release.tildeUpper
  split
  · simp
  · simp
  · simp

private theorem splitOn_range {lower upper : Release} :
    (">=".toList ++ lower.render.toList ++ ",<".toList ++ upper.render.toList).splitOn ',' =
      [['>', '='] ++ lower.render.toList, ['<'] ++ upper.render.toList] := by
  have hcomma : ∀ r : Release, ',' ∉ r.render.toList := fun r hc ↦ by
    cases Release.isReleaseChar_of_mem_render hc
  have htext : ">=".toList ++ lower.render.toList ++ ",<".toList ++ upper.render.toList =
      (['>', '='] ++ lower.render.toList) ++ ',' :: (['<'] ++ upper.render.toList) := by
    simp
  rw [htext, List.splitOn_append_cons_self, List.splitOn_eq_singleton (by simp [hcomma]),
    List.splitOn_eq_singleton (by simp [hcomma]), List.singleton_append]

/-- The three ways in which a piece can be translated. -/
theorem isTranslatable_cons_iff {c : Char} {rest : List Char} :
    IsTranslatable (c :: rest) ↔
      IsPlain (c :: rest) ∨ (isDigit c = true ∧ ∃ p, Clause.parts? (c :: rest) = some p) ∨
        ((c = '^' ∨ c = '~') ∧ ∃ r, Release.parse (trimChars rest) = .ok r) := by
  constructor
  · intro h
    cases h with
    | plain h => exact .inl h
    | bare hdigit hparts => exact .inr (.inl ⟨hdigit, _, hparts⟩)
    | range hsign hr => exact .inr (.inr ⟨hsign, _, hr⟩)
  · rintro (h | ⟨hdigit, p, hparts⟩ | ⟨hsign, r, hr⟩)
    · exact .plain h
    · exact .bare hdigit hparts
    · exact .range hsign hr

private theorem forall_isPlain_range_iff {sign : Char} (hsign : sign = '^' ∨ sign = '~')
    {rest : List Char} (hcomma : ',' ∉ sign :: rest) (hplain : ¬IsPlain (sign :: rest))
    {upper : Release → Release} (hupper : ∀ r, upper r ≠ []) :
    (∀ element ∈ (range upper (sign :: rest) rest).splitOn ',', IsPlain element) ↔
      IsTranslatable (sign :: rest) := by
  have hdigit : isDigit sign = false := by
    rcases hsign with rfl | rfl <;> rfl
  rw [isTranslatable_cons_iff, range]
  cases hr : Release.parse (trimChars rest) with
  | error e =>
    simp only [List.splitOn_eq_singleton hcomma, List.forall_mem_singleton]
    simp [hplain, hdigit]
  | ok r =>
    have hne : r ≠ [] := (Release.isWritable_of_parse hr).ne_nil
    simp only [splitOn_range, List.forall_mem_cons]
    refine iff_of_true ⟨?_, ?_, List.forall_mem_nil _⟩ (.inr (.inr ⟨hsign, r, rfl⟩))
    · exact Clause.isPlain_append_render (by decide) hne
    · exact Clause.isPlain_append_render (by decide) (hupper r)

private theorem parse_trimChars_equal (rest : List Char) (r : Release) :
    Release.parse (trimChars ('=' :: rest)) ≠ .ok r := by
  intro hr
  have hchars := Release.isReleaseChar_of_parse hr
  have hne : trimChars ('=' :: rest) ≠ [] := (Release.parse_eq_ok_iff.mp hr).1
  obtain ⟨a, b, hs, ha, -⟩ := Text.exists_eq_append_trimChars ('=' :: rest)
  obtain ⟨c, tail, hc⟩ := List.exists_cons_of_ne_nil hne
  rw [hc] at hs hchars
  cases a with
  | nil =>
    obtain rfl : '=' = c := (List.cons.inj hs).1
    cases hchars '=' List.mem_cons_self
  | cons x a =>
    obtain rfl : '=' = x := (List.cons.inj hs).1
    cases ha '=' List.mem_cons_self

private theorem forall_isPlain_expandPiece_iff {piece : List Char} (hcomma : ',' ∉ piece)
    (hne : piece ≠ []) :
    (∀ element ∈ (expandPiece piece).splitOn ',', IsPlain element) ↔ IsTranslatable piece := by
  unfold expandPiece
  split
  · exact forall_isPlain_range_iff (.inl rfl) hcomma (fun h ↦ h.head.2.1 rfl) caretUpper_ne_nil
  · next rest =>
    have hdigit : isDigit '~' = false := rfl
    rw [List.splitOn_eq_singleton hcomma, List.forall_mem_singleton, isTranslatable_cons_iff]
    simp only [hdigit, Bool.false_eq_true, false_and, parse_trimChars_equal, exists_false,
      and_false, or_false]
  · next rest htilde =>
    refine forall_isPlain_range_iff (.inr rfl) hcomma (fun h ↦ ?_) tildeUpper_ne_nil
    obtain ⟨tail, rfl⟩ := List.head?_eq_some_iff.mp (h.head.2.2 rfl)
    exact htilde tail rfl
  · next c rest hcaret hcompatible htilde =>
    have hsign : ¬(c = '^' ∨ c = '~') := by
      rintro (rfl | rfl)
      · exact hcaret rfl
      · exact htilde rfl
    split
    · next hdigit =>
      have hsymbol : isSymbolChar c = false :=
        Release.isSymbolChar_of_isReleaseChar (by simp [Release.isReleaseChar, hdigit])
      have hplain : ¬IsPlain (c :: rest) := fun h ↦ by
        rw [h.head.1] at hsymbol
        cases hsymbol
      have hequal : '=' :: '=' :: c :: rest = ['=', '='] ++ c :: rest := rfl
      rw [hequal, List.splitOn_eq_singleton (by simpa using hcomma), List.forall_mem_singleton,
        Clause.isPlain_append_iff (by decide) hsymbol, isTranslatable_cons_iff]
      simp only [hplain, hdigit, hsign, true_and, false_and, false_or, or_false]
    · next hdigit =>
      rw [List.splitOn_eq_singleton hcomma, List.forall_mem_singleton, isTranslatable_cons_iff]
      simp only [hdigit, hsign, Bool.false_eq_true, false_and, or_false]
  · exact absurd rfl hne

private theorem expandPiece_ne_nil {piece : List Char} (hne : piece ≠ []) :
    expandPiece piece ≠ [] := by
  have hrange : ∀ (upper : Release → Release) (written : List Char),
      range upper piece written ≠ [] := by
    intro upper written
    rw [range]
    split
    · simp
    · exact hne
  unfold expandPiece
  split
  · exact hrange _ _
  · exact List.cons_ne_nil _ _
  · exact hrange _ _
  · split <;> exact List.cons_ne_nil _ _
  · exact hne

private theorem of_mem_pieces {s piece : List Char} (h : piece ∈ pieces s) :
    ',' ∉ piece ∧ piece ≠ [] := by
  obtain ⟨hpiece, hkept⟩ := List.mem_filter.mp h
  obtain ⟨p, hp, rfl⟩ := List.mem_map.mp hpiece
  refine ⟨fun hc ↦ Text.not_mem_of_mem_splitOn hp (Text.mem_of_mem_trimChars hc), ?_⟩
  rintro hnil
  simp [hnil] at hkept

private theorem splitOn_intercalate_comma {texts : List (List Char)} (hne : texts ≠ []) :
    ([','].intercalate texts).splitOn ',' = texts.flatMap (·.splitOn ',') := by
  induction texts with
  | nil => exact absurd rfl hne
  | cons text rest ih =>
    cases rest with
    | nil => simp
    | cons next rest =>
      rw [List.intercalate_cons_cons, List.append_assoc, List.singleton_append,
        List.splitOn_append_cons_self, ih (List.cons_ne_nil _ _), List.flatMap_cons (x := text)]

end Version.Shorthand

namespace PoetryDependency

open Version.Shorthand (IsTranslatable expand pieces)

/-- The repository that a dependency comes from, if it comes from one. -/
def git? : PoetryDependency → Option String
  | .bare _ => none
  | .detailed _ git _ _ => git

/-- Whether there is nothing in a text but plain clauses with commas between them. -/
def IsPlainList (s : String) : Prop :=
  s = "" ∨ ∀ element ∈ s.toList.splitOn ',', Clause.IsPlain element

instance : DecidablePred IsPlainList := fun s ↦
  inferInstanceAs (Decidable (s = "" ∨ ∀ element ∈ s.toList.splitOn ',', Clause.IsPlain element))

/-- An expansion is a list of plain clauses exactly when every piece can be translated. -/
theorem isPlainList_expand_iff (text : String) :
    IsPlainList (expand text) ↔ ∀ piece ∈ pieces text.toList, IsTranslatable piece := by
  have hpieces := fun piece ↦ @Version.Shorthand.of_mem_pieces text.toList piece
  rw [IsPlainList, ← String.toList_inj, expand, String.toList_ofList]
  generalize pieces text.toList = ps at hpieces
  cases ps with
  | nil => simp
  | cons first rest =>
    have hne : [','].intercalate ((first :: rest).map Version.Shorthand.expandPiece) ≠
        "".toList := by
      have hexpanded := Version.Shorthand.expandPiece_ne_nil (hpieces first List.mem_cons_self).2
      cases rest with
      | nil => simpa using hexpanded
      | cons next rest => simp [List.intercalate_cons_cons]
    rw [or_iff_right hne, Version.Shorthand.splitOn_intercalate_comma (by simp),
      List.forall_mem_flatMap, List.forall_mem_map]
    refine forall₂_congr fun piece hpiece ↦ ?_
    exact Version.Shorthand.forall_isPlain_expandPiece_iff (hpieces piece hpiece).1
      (hpieces piece hpiece).2

/-- The extras of a package, between brackets if there are any. -/
def bracketed (extras : List String) : String :=
  if extras.isEmpty then "" else "[" ++ ",".intercalate extras ++ "]"

private theorem requirement_of_constraint {d : PoetryDependency} {text : String}
    (hgit : d.git? = none) (htext : d.constraint? = some text) (name : String) :
    d.requirement name = name ++ bracketed d.extras ++ expand text := by
  cases d with
  | bare constraint =>
    obtain rfl := Option.some.inj htext
    rfl
  | detailed version git rev extras =>
    obtain rfl : git = none := hgit
    obtain rfl : version = some text := htext
    rfl

/-- The requirement for a package that no repository gives is its name, its extras and, exactly
when every piece of the constraint can be translated, nothing but plain clauses with commas between
them. -/
theorem requirement_plain_iff {d : PoetryDependency} {text : String} (hgit : d.git? = none)
    (htext : d.constraint? = some text) (name : String) :
    ∃ suffix, d.requirement name = name ++ bracketed d.extras ++ suffix ∧
      (IsPlainList suffix ↔ ∀ piece ∈ pieces text.toList, IsTranslatable piece) :=
  ⟨expand text, requirement_of_constraint hgit htext name, isPlainList_expand_iff text⟩

/-- Pieces of every kind, behind a package with extras. -/
theorem requirement_plain_iff_extras :
    let text := " ^2.31, ~ 1.4,*,3.*, >= v3.0"
    let d : PoetryDependency := .detailed (some text) none none ["socks", "use"]
    d.git? = none ∧ d.constraint? = some text ∧ (∃ c, Constraint.parse text = .ok c) ∧
      d.requirement "requests" =
        "requests" ++ "[socks,use]" ++ ">=2.31,<3.0,>=1.4,<1.5,==3.*,>= v3.0" ∧
      IsPlainList ">=2.31,<3.0,>=1.4,<1.5,==3.*,>= v3.0" ∧
      ∀ piece ∈ pieces text.toList, IsTranslatable piece := by
  intro text d
  have hrequirement : d.requirement "requests" =
      "requests" ++ "[socks,use]" ++ ">=2.31,<3.0,>=1.4,<1.5,==3.*,>= v3.0" := by
    decide +kernel
  have hlist : IsPlainList ">=2.31,<3.0,>=1.4,<1.5,==3.*,>= v3.0" := by decide +kernel
  have hparse : Constraint.parse text = .ok ⟨"^2.31, ~ 1.4,*,3.*, >= v3.0",
      [⟨.caret, [2, 31], false⟩, ⟨.tilde, [1, 4], false⟩, ⟨.equal, [3], true⟩,
        ⟨.atLeast, [3, 0], false⟩]⟩ := by
    decide +kernel
  obtain ⟨suffix, hsuffix, hplain⟩ := @requirement_plain_iff d text rfl rfl "requests"
  obtain rfl := String.append_right_inj _ |>.mp (hsuffix.symm.trans hrequirement)
  exact ⟨rfl, rfl, ⟨_, hparse⟩, hrequirement, hlist, hplain.mp hlist⟩

/-- Constraints that are read, but of which no requirement comes: clauses with a blank between them,
and a version behind the letter. -/
theorem requirement_of_untranslated :
    Constraint.parse "^2.31 !=2.32" =
        .ok ⟨"^2.31 !=2.32", [⟨.caret, [2, 31], false⟩, ⟨.unequal, [2, 32], false⟩]⟩ ∧
      (bare "^2.31 !=2.32").requirement "requests" = "requests" ++ "^2.31 !=2.32" ∧
      ¬IsPlainList "^2.31 !=2.32" ∧
      Constraint.parse "v2.31" = .ok ⟨"v2.31", [⟨.equal, [2, 31], false⟩]⟩ ∧
      (bare "v2.31").requirement "requests" = "requestsv2.31" ∧ ¬IsPlainList "v2.31" := by
  decide +kernel

end PoetryDependency

end ContainerBuild
