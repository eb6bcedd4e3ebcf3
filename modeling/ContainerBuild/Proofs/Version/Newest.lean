import ContainerBuild.Proofs.Version.Bounds

/-!
# The newest known version

The known versions stand in falling order of their numbers, so the first one that a constraint
allows is the newest one. Without a version that is asked for, this is what a choice leads to; a
line that is asked for is chosen or refused as it stands, and no known version takes its place. All
this is computed within the bounds of the numbers, unless one of the constraint is the largest one.
-/

namespace ContainerBuild.Version

open Text (firstLine)

variable {c : Constraint} {constraint text : String}

/-- Of two written versions the first one is newer, by their numbers. -/
def IsNewer (a b : String) : Prop :=
  ∃ v w, Version.parse a = .ok v ∧ Version.parse b = .ok w ∧ w < v

/-- A text is the newest of some written versions that a constraint allows. -/
structure IsNewest (c : Constraint) (known : List String) (text : String) : Prop where
  mem : text ∈ known
  exists_version : ∃ v, Version.parse text = .ok v ∧ c.allows v = true ∧
    ∀ other ∈ known, ∀ w, Version.parse other = .ok w → c.allows w = true → w ≤ v

private theorem IsNewer.lt {a b : String} {v w : Version} (h : IsNewer a b)
    (ha : Version.parse a = .ok v) (hb : Version.parse b = .ok w) : w < v := by
  obtain ⟨v', w', hv, hw, hlt⟩ := h
  obtain rfl : v = v' := Except.ok.inj (ha.symm.trans hv)
  obtain rfl : w = w' := Except.ok.inj (hb.symm.trans hw)
  exact hlt

/-- The known versions stand in falling order. -/
theorem pairwise_isNewer_preferred : preferred.Pairwise IsNewer := by
  let versions : List Version := [13, 12, 11, 10, 9, 8, 7, 6].map fun minor ↦ ⟨3, minor, 0⟩
  have hread : preferred.map Version.parse = versions.map .ok := by decide
  have hfalling : versions.Pairwise fun v w ↦ w < v := by decide
  have hall : (versions.map .ok : List (Except VersionError Version)).Pairwise
      fun x y ↦ ∃ v w, x = .ok v ∧ y = .ok w ∧ w < v :=
    List.pairwise_map.mpr (hfalling.imp fun hlt ↦ ⟨_, _, rfl, rfl, hlt⟩)
  rw [← hread, List.pairwise_map] at hall
  exact hall

/-- In falling order, the first allowed version is the newest allowed one. -/
theorem find?_isAllowed_eq_some_iff {known : List String}
    (h : known.Pairwise IsNewer) :
    known.find? (isAllowed c) = some text ↔ IsNewest c known text := by
  constructor
  · intro hfind
    obtain ⟨hallowed, before, behind, rfl, hbefore⟩ := List.find?_eq_some_iff_append.mp hfind
    obtain ⟨v, hv, hc⟩ := isAllowed_eq_true_iff.mp hallowed
    refine ⟨by simp, v, hv, hc, fun other hother w hw hcw ↦ ?_⟩
    rcases List.mem_append.mp hother with hother | hother
    · -- what stands in front is not allowed
      have hnot := hbefore other hother
      rw [isAllowed_eq_true_iff.mpr ⟨w, hw, hcw⟩] at hnot
      cases hnot
    · rcases List.mem_cons.mp hother with rfl | hother
      · rw [hv] at hw
        cases hw
        exact Version.le_refl v
      · have hnewer := (List.pairwise_cons.mp (List.pairwise_append.mp h).2.1).1 other hother
        exact .inl (hnewer.lt hv hw)
  · rintro ⟨hmem, v, hv, hc, hgreatest⟩
    have hallowed : isAllowed c text = true := isAllowed_eq_true_iff.mpr ⟨v, hv, hc⟩
    cases hfind : known.find? (isAllowed c) with
    | none => exact absurd hallowed (List.find?_eq_none.mp hfind text hmem)
    | some first =>
      obtain ⟨hfirst, before, behind, rfl, hbefore⟩ := List.find?_eq_some_iff_append.mp hfind
      rcases List.mem_append.mp hmem with hmem | hmem
      · have hnot := hbefore text hmem
        rw [hallowed] at hnot
        cases hnot
      · rcases List.mem_cons.mp hmem with rfl | hmem
        · rfl
        · -- the first one would be newer than the newest one
          obtain ⟨w, hw, hcw⟩ := isAllowed_eq_true_iff.mp hfirst
          have hnewer := (List.pairwise_cons.mp (List.pairwise_append.mp h).2.1).1 text hmem
          have hle : w ≤ v := hgreatest first (by simp) w hw hcw
          exact absurd (hnewer.lt hw hv) (Version.not_lt.mpr hle)

private theorem find?_isAllowed_eq_none_iff {known : List String} :
    known.find? (isAllowed c) = none ↔
      ∀ text ∈ known, ∀ v, Version.parse text = .ok v → c.allows v = false := by
  simp only [List.find?_eq_none, isAllowed_eq_true_iff, not_exists, not_and, Bool.not_eq_true]

/-- Under a readable constraint, a choice without a first line leads to the newest known version
that is allowed, and fails, as unsatisfiable, exactly when none is. A choice with a first line
leads to this line exactly when it is read and allowed, and fails with the reason why it is no
version or as a mismatch. Where numbers do not begin again behind the largest one, the choice is the
same unless the largest one stands in the constraint, and nothing but this can stop it. -/
theorem choose_of_parse (hc : Constraint.parse constraint = .ok c) :
    (∀ explicit, (∀ text ∈ explicit, firstLine text = "") →
      (∀ version, choose constraint explicit = .ok version ↔ IsNewest c preferred version) ∧
      ∀ e, choose constraint explicit = .error e ↔
        e = .unsatisfiable c.render ∧
          ∀ known ∈ preferred, ∀ v, Version.parse known = .ok v → c.allows v = false) ∧
    (∀ text, firstLine text ≠ "" →
      (∀ version, choose constraint (some text) = .ok version ↔
        version = firstLine text ∧ ∃ v, Version.parse (firstLine text) = .ok v ∧
          c.allows v = true) ∧
      ∀ e, choose constraint (some text) = .error e ↔
        (∃ reason, Version.parse (firstLine text) = .error e ∧
          e = .invalidVersion (firstLine text) reason) ∨
        ∃ v, Version.parse (firstLine text) = .ok v ∧ c.allows v = false ∧
          e = .mismatch (firstLine text) c.render) ∧
    ∀ explicit,
      ((∀ clause ∈ c.clauses, ∀ n ∈ clause.release, n < Release.componentLimit) →
        Guarded.choose constraint explicit = .ok (choose constraint explicit)) ∧
      ∀ fault, Guarded.choose constraint explicit = .error fault → fault = .overflow := by
  refine ⟨fun explicit hblank ↦ ⟨fun version ↦ ?_, fun e ↦ ?_⟩,
    fun text hline ↦ ⟨fun version ↦ ?_, fun e ↦ ?_⟩, fun explicit ↦ ?_⟩
  · rw [choose_eq_ok_iff_of_blank hc hblank,
      find?_isAllowed_eq_some_iff pairwise_isNewer_preferred]
  · rw [choose_eq_error_iff_of_blank hc hblank, find?_isAllowed_eq_none_iff, and_comm]
  · rw [choose_eq_ok_iff_of_firstLine hc hline, isAllowed_eq_true_iff]
  · rw [choose_eq_error_iff_of_firstLine hc hline]
    apply or_congr_left
    constructor
    · intro he
      obtain ⟨reason, hreason⟩ := parse_eq_error he
      rw [Text.firstLine_firstLine] at hreason
      exact ⟨reason, he, hreason⟩
    · rintro ⟨-, he, -⟩
      exact he
  · have hagrees := Guarded.agrees_choose hc explicit
    exact ⟨hagrees.eq_ok, fun _ ↦ hagrees.eq_overflow⟩

/-- A range with a hole, in which the newest version is not the last one in the order of texts. -/
theorem choose_of_parse_range :
    let constraint := ">= 3.8 <3.13, != 3.12.*\n# known"
    let c : Constraint := ⟨">= 3.8 <3.13, != 3.12.*",
      [⟨.atLeast, [3, 8], false⟩, ⟨.below, [3, 13], false⟩, ⟨.unequal, [3, 12], true⟩]⟩
    Constraint.parse constraint = .ok c ∧
      choose constraint (some " \n3.9") = .ok "3.11" ∧
      choose constraint (some " v3.9.1 \n3.10") = .ok "v3.9.1" ∧
      choose constraint (some "3.12.4") = .error (.mismatch "3.12.4" c.text) ∧
      choose constraint (some "three") = .error (.invalidVersion "three" (.notNumber "three")) ∧
      Guarded.choose constraint none = .ok (choose constraint none) := by
  intro constraint c
  have hc : Constraint.parse constraint = .ok c := by decide
  obtain ⟨hknown, hline, hguarded⟩ := choose_of_parse hc
  refine ⟨hc, ((hknown (some " \n3.9") (by decide)).1 _).mpr ?_,
    ((hline _ (by decide)).1 _).mpr ⟨by decide, ⟨3, 9, 1⟩, by decide, by decide⟩,
    ((hline _ (by decide)).2 _).mpr (.inr ⟨⟨3, 12, 4⟩, by decide, by decide, by decide⟩),
    ((hline _ (by decide)).2 _).mpr (.inl ⟨.notNumber "three", by decide, by decide⟩),
    (hguarded none).1 (by decide)⟩
  exact (find?_isAllowed_eq_some_iff pairwise_isNewer_preferred).mp (by decide)

end ContainerBuild.Version
