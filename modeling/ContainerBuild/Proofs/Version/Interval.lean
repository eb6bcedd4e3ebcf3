import ContainerBuild.Proofs.Version.Layout

/-!
# The intervals of shorthand clauses

A wildcard, a compatible release, a tilde and a caret each allow the versions from a release up to
a bound. The bound comes from the release in one way: it is cut behind some number, and this number
is raised. The operators differ only in where they cut.
-/

namespace ContainerBuild

namespace Release

variable {r : Release} {v : Version}

/-- The release with its last number raised. -/
def raiseLast : Release → Release
  | [] => []
  | [n] => [n + 1]
  | n :: next :: rest => n :: raiseLast (next :: rest)

/-- The numbers of a release up to the first that is not zero, or all of them. -/
def lead : Release → Release
  | [] => []
  | n :: rest => if n = 0 then n :: lead rest else [n]

private theorem raiseLast_cons (n : Nat) (hne : r ≠ []) :
    raiseLast (n :: r) = n :: raiseLast r := by
  cases r with
  | nil => exact absurd rfl hne
  | cons next rest => rfl

private theorem lead_ne_nil (hne : r ≠ []) : lead r ≠ [] := by
  cases r with
  | nil => exact absurd rfl hne
  | cons n rest =>
    rw [lead]
    split <;> exact List.cons_ne_nil _ _

private theorem toVersion_append_zero (r : Release) :
    Release.toVersion (r ++ [0]) = r.toVersion := by
  have hget (i : Nat) : (r ++ [0]).getD i 0 = r.getD i 0 := by
    rw [List.getD_eq_getElem?_getD, List.getD_eq_getElem?_getD]
    by_cases hi : i < r.length
    · rw [List.getElem?_append_left hi]
    · rw [List.getElem?_append_right (by omega), List.getElem?_eq_none (l := r) (by omega)]
      cases i - r.length <;> rfl
  simp only [toVersion, hget]

/-! ## Where the operators cut -/

/-- The numbers of a release that can be read. -/
theorem exists_eq_of_length_le (hne : r ≠ []) (hlength : r.length ≤ 3) :
    (∃ a, r = [a]) ∨ (∃ a b, r = [a, b]) ∨ ∃ a b c, r = [a, b, c] := by
  match r, hne, hlength with
  | [a], _, _ => exact .inl ⟨a, rfl⟩
  | [a, b], _, _ => exact .inr (.inl ⟨a, b, rfl⟩)
  | [a, b, c], _, _ => exact .inr (.inr ⟨a, b, c, rfl⟩)

/-- The versions that a release opens are those up to the release with its last number raised. -/
theorem opens_iff (hne : r ≠ []) (hlength : r.length ≤ 3) :
    r.opens v = true ↔ r.toVersion ≤ v ∧ v < r.raiseLast.toVersion := by
  rw [Version.le_iff, Version.lt_def]
  rcases exists_eq_of_length_le hne hlength with ⟨a, rfl⟩ | ⟨a, b, rfl⟩ | ⟨a, b, c, rfl⟩
  all_goals
    simp only [opens, toVersion, raiseLast, Version.toList, List.zip_cons_cons, List.zip_nil_right,
      List.all_cons, List.all_nil, List.getD_cons_zero, List.getD_cons_succ, List.getD_nil,
      Bool.and_true, Bool.and_eq_true, beq_iff_eq]
    omega

private theorem toVersion_dropLast_le (hne : r ≠ []) (hlength : r.length ≤ 3) :
    Release.toVersion r.dropLast ≤ r.toVersion := by
  rw [Version.le_iff]
  rcases exists_eq_of_length_le hne hlength with ⟨a, rfl⟩ | ⟨a, b, rfl⟩ | ⟨a, b, c, rfl⟩
  all_goals
    simp only [toVersion, List.dropLast_singleton, List.dropLast_cons_cons, List.getD_cons_zero,
      List.getD_cons_succ, List.getD_nil, true_and]
    omega

private theorem toVersion_tildeUpper (hne : r ≠ []) (hroom : r.HasRoom) :
    r.tildeUpper.toVersion = Release.toVersion (raiseLast (r.take 2)) := by
  match r, hne with
  | [major], _ =>
    rw [tildeUpper, successor_eq (hroom major List.mem_cons_self)]
    rfl
  | major :: minor :: rest, _ =>
    rw [tildeUpper, successor_eq (hroom minor (List.mem_cons_of_mem _ List.mem_cons_self))]
    rfl

private theorem caretIndex_cons {n : Nat} (hn : n ≠ 0) (r : Release) : caretIndex (n :: r) = 0 := by
  simp [caretIndex, List.findIdx?_cons, hn]

private theorem caretIndex_zero_cons (hne : r ≠ []) : caretIndex (0 :: r) = caretIndex r + 1 := by
  have hpos : 0 < r.length := List.length_pos_iff.mpr hne
  simp only [caretIndex, List.findIdx?_cons]
  cases r.findIdx? (· ≠ 0) with
  | none => simp; omega
  | some i => simp

private theorem modify_caretIndex (hne : r ≠ []) :
    (r.take (caretIndex r + 1)).modify (caretIndex r) (· + 1) = raiseLast (lead r) := by
  induction r with
  | nil => exact absurd rfl hne
  | cons n rest ih =>
    by_cases hn : n = 0
    · subst hn
      by_cases hrest : rest = []
      · subst hrest
        rfl
      · rw [caretIndex_zero_cons hrest, List.take_succ_cons, List.modify_succ_cons, ih hrest, lead,
          if_pos rfl, raiseLast_cons 0 (lead_ne_nil hrest)]
    · rw [caretIndex_cons hn, lead, if_neg hn]
      rfl

private theorem toVersion_caretUpper (hne : r ≠ []) (hroom : r.HasRoom) :
    r.caretUpper.toVersion = Release.toVersion (raiseLast (lead r)) := by
  have htake : Release.HasRoom (r.take (caretIndex r + 1)) :=
    fun n hn ↦ hroom n (List.mem_of_mem_take hn)
  simp only [caretUpper, modify_successor htake, modify_caretIndex hne]
  split
  · rw [toVersion_append_zero]
  · rfl

end Release

namespace Clause

variable {r : Release} {v : Version}

/-- A wildcard allows the versions up to the release with its last number raised. -/
theorem allows_equal_iff (hne : r ≠ []) (hlength : r.length ≤ 3) :
    (⟨.equal, r, true⟩ : Clause).allows v = true ↔
      r.toVersion ≤ v ∧ v < r.raiseLast.toVersion := by
  rw [← Release.opens_iff hne hlength]
  rfl

/-- A wildcard behind an inequality sign allows all other versions. -/
theorem allows_unequal_iff (hne : r ≠ []) (hlength : r.length ≤ 3) :
    (⟨.unequal, r, true⟩ : Clause).allows v = true ↔
      ¬(r.toVersion ≤ v ∧ v < r.raiseLast.toVersion) := by
  have hallows : (⟨.unequal, r, true⟩ : Clause).allows v = !r.opens v := rfl
  rw [← Release.opens_iff hne hlength, hallows, Bool.not_eq_true', Bool.not_eq_true]

/-- A compatible release allows the versions up to the release without its last number, with the
one before it raised. -/
theorem allows_compatible_iff (htwo : 2 ≤ r.length) (hlength : r.length ≤ 3) :
    (⟨.compatible, r, false⟩ : Clause).allows v = true ↔
      r.toVersion ≤ v ∧ v < Release.toVersion (Release.raiseLast r.dropLast) := by
  have hdrop : r.dropLast.length = r.length - 1 := List.length_dropLast
  have hne : r.dropLast ≠ [] := List.ne_nil_of_length_pos (by omega)
  have hle : Release.toVersion r.dropLast ≤ r.toVersion :=
    Release.toVersion_dropLast_le (List.ne_nil_of_length_pos (by omega)) hlength
  rw [allows, Bool.and_eq_true, decide_eq_true_eq, Release.opens_iff hne (by omega)]
  constructor
  · rintro ⟨hlower, -, hupper⟩
    exact ⟨hlower, hupper⟩
  · rintro ⟨hlower, hupper⟩
    exact ⟨hlower, Version.le_trans hle hlower, hupper⟩

/-- A tilde allows the versions up to the release cut to two numbers, with the last one raised. -/
theorem allows_tilde_iff (hne : r ≠ []) (hroom : r.HasRoom) :
    (⟨.tilde, r, false⟩ : Clause).allows v = true ↔
      r.toVersion ≤ v ∧ v < Release.toVersion (Release.raiseLast (r.take 2)) := by
  rw [allows, Bool.and_eq_true, decide_eq_true_eq, decide_eq_true_eq,
    Release.toVersion_tildeUpper hne hroom]

/-- A caret allows the versions up to the release cut behind the first number that is not zero, with
this number raised. -/
theorem allows_caret_iff (hne : r ≠ []) (hroom : r.HasRoom) :
    (⟨.caret, r, false⟩ : Clause).allows v = true ↔
      r.toVersion ≤ v ∧ v < r.lead.raiseLast.toVersion := by
  rw [allows, Bool.and_eq_true, decide_eq_true_eq, decide_eq_true_eq,
    Release.toVersion_caretUpper hne hroom]

end Clause

namespace Constraint

variable {r : Release}

/-- A text is a constraint that allows the versions from one release up to another. -/
def IsInterval (text : String) (lower upper : Release) : Prop :=
  ∃ c, Constraint.parse text = .ok c ∧
    ∀ v, c.allows v = true ↔ lower.toVersion ≤ v ∧ v < upper.toVersion

/-- An operator with the numbers of a release behind it, and perhaps a wildcard, is read as one
clause. -/
theorem parse_clause (clause : Clause) (symbol : String) {text : String}
    (hclause : clause.IsWellFormed)
    (hsymbol : Comparison.ofSymbol? symbol.toList = some clause.comparison)
    (htext : text.toList =
      symbol.toList ++ (clause.release.render.toList ++ Clause.star clause.wildcard)) :
    Constraint.parse text = .ok ⟨Text.trim text, [clause]⟩ := by
  have hversion := Version.isSpelled_render clause.release
  have hspelled : clause.IsSpelled text.toList :=
    ⟨hclause, symbol.toList, [], _, hsymbol, List.forall_mem_nil _, hversion, htext⟩
  have hline : '\n' ∉ text.toList := by
    rw [htext]
    intro hn
    rcases List.mem_append.mp hn with hn | hn
    · cases Comparison.isSymbolChar_of_ofSymbol? hsymbol _ hn
    · cases ((Clause.of_isSpelled_release hclause.isWritable hversion).1 _ hn).1
  have hparse := parse_spelling hline hspelled
  rwa [String.ofList_toList] at hparse

/-- A constraint of one clause allows what the clause allows. -/
theorem allows_singleton (text : String) (clause : Clause) (v : Version) :
    (⟨text, [clause]⟩ : Constraint).allows v = clause.allows v := by
  simp [Constraint.allows]

private theorem isInterval_of_clause (clause : Clause) (symbol : String) {text : String}
    {lower upper : Release} (hclause : clause.IsWellFormed)
    (hsymbol : Comparison.ofSymbol? symbol.toList = some clause.comparison)
    (htext : text.toList =
      symbol.toList ++ (clause.release.render.toList ++ Clause.star clause.wildcard))
    (h : ∀ v, clause.allows v = true ↔ lower.toVersion ≤ v ∧ v < upper.toVersion) :
    IsInterval text lower upper := by
  refine ⟨_, parse_clause clause symbol hclause hsymbol htext, fun v ↦ ?_⟩
  rw [allows_singleton, h]

/-- A shorthand clause is a constraint, and it allows an interval of versions: from its release up
to the release cut behind one of its numbers, with that number raised. A wildcard behind an
inequality sign allows all versions outside of its interval. -/
theorem isInterval_shorthand (hne : r ≠ []) (hlength : r.length ≤ 3) (hroom : r.HasRoom) :
    IsInterval ("==" ++ r.render ++ ".*") r r.raiseLast ∧
      (∃ c, Constraint.parse ("!=" ++ r.render ++ ".*") = .ok c ∧
        ∀ v, c.allows v = true ↔ ¬(r.toVersion ≤ v ∧ v < r.raiseLast.toVersion)) ∧
      (2 ≤ r.length → IsInterval ("~=" ++ r.render) r (Release.raiseLast r.dropLast)) ∧
      IsInterval ("~" ++ r.render) r (Release.raiseLast (r.take 2)) ∧
      IsInterval ("^" ++ r.render) r r.lead.raiseLast := by
  have hr : r.IsWritable := ⟨hne, hlength, fun n hn ↦ Nat.le_of_lt (hroom n hn)⟩
  refine ⟨?_, ?_, fun htwo ↦ ?_, ?_, ?_⟩
  · apply isInterval_of_clause ⟨.equal, r, true⟩ "==" ⟨hr, fun _ ↦ rfl, by simp⟩ rfl
    · simp [Clause.star]
    · exact fun _ ↦ Clause.allows_equal_iff hne hlength
  · refine ⟨_, parse_clause ⟨.unequal, r, true⟩ "!=" ⟨hr, fun _ ↦ rfl, by simp⟩ rfl ?_, fun v ↦ ?_⟩
    · simp [Clause.star]
    · rw [allows_singleton, Clause.allows_unequal_iff hne hlength]
  · apply isInterval_of_clause ⟨.compatible, r, false⟩ "~=" ⟨hr, by simp, fun _ ↦ htwo⟩ rfl
    · simp [Clause.star]
    · exact fun _ ↦ Clause.allows_compatible_iff htwo hlength
  · apply isInterval_of_clause ⟨.tilde, r, false⟩ "~" ⟨hr, by simp, by simp⟩ rfl
    · simp [Clause.star]
    · exact fun _ ↦ Clause.allows_tilde_iff hne hroom
  · apply isInterval_of_clause ⟨.caret, r, false⟩ "^" ⟨hr, by simp, by simp⟩ rfl
    · simp [Clause.star]
    · exact fun _ ↦ Clause.allows_caret_iff hne hroom

/-- A release with zeros in front: a caret cuts behind its last number, a tilde does not. -/
theorem isInterval_shorthand_zeros :
    let r : Release := [0, 0, 4]
    (r ≠ [] ∧ r.length ≤ 3 ∧ r.HasRoom) ∧
      IsInterval "==0.0.4.*" [0, 0, 4] [0, 0, 5] ∧
      (∃ c, Constraint.parse "!=0.0.4.*" = .ok c ∧
        ∀ v, c.allows v = true ↔ ¬(⟨0, 0, 4⟩ ≤ v ∧ v < ⟨0, 0, 5⟩)) ∧
      IsInterval "~=0.0.4" [0, 0, 4] [0, 1] ∧ IsInterval "~0.0.4" [0, 0, 4] [0, 1] ∧
      IsInterval "^0.0.4" [0, 0, 4] [0, 0, 5] := by
  intro r
  have hroom : r.HasRoom := by
    intro n hn
    have hle : n ≤ 4 := by
      revert n
      decide
    have hlimit : 4 < Release.componentLimit := by decide
    omega
  obtain ⟨hequal, hunequal, hcompatible, htilde, hcaret⟩ :=
    isInterval_shorthand (r := r) (by decide) (by decide) hroom
  exact ⟨⟨by decide, by decide, hroom⟩, hequal, hunequal, hcompatible (by decide), htilde, hcaret⟩

end Constraint

end ContainerBuild
