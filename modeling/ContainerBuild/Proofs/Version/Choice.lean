import ContainerBuild.Proofs.Text.Trim
import ContainerBuild.Version.Choice

/-!
# What a choice of a version leads to

A version is read from the first line of a text, so what is read does not change when the
text is trimmed first. A choice leads to a version on one line that the constraint allows. With a
constraint that can be read, it fails only because the explicit version cannot be read, is not
allowed, or because no known version is allowed.
-/

namespace ContainerBuild.Version

open Text (firstLine)

/-- Only the first line of a version counts. -/
@[simp] theorem parse_firstLine (s : String) : Version.parse (firstLine s) = Version.parse s := by
  simp only [Version.parse, Text.firstLine_firstLine]

/-- The text of an invalid version is its first line. -/
theorem parse_eq_error {s : String} {e : VersionError} (h : Version.parse s = .error e) :
    ∃ reason, e = .invalidVersion (firstLine s) reason := by
  simp only [Version.parse] at h
  split at h
  · cases h
  · next reason hr => exact ⟨reason, (Except.error.inj h).symm⟩

private theorem firstLine_ne_of_parse {s : String} {v : Version} (h : Version.parse s = .ok v) :
    firstLine s ≠ "" := by
  intro he
  simp only [Version.parse, he] at h
  cases h

/-- A version can be read from the trimmed text when it can be read at all. -/
theorem parse_trim {s : String} {v : Version} (h : Version.parse s = .ok v) :
    Version.parse (Text.trim s) = .ok v := by
  rw [← parse_firstLine, Text.firstLine_trim (firstLine_ne_of_parse h), parse_firstLine, h]

/-! ## The two ways of choosing -/

variable {c : Constraint} {constraint text version : String} {explicit : Option String}

/-- A written version is allowed when it can be read and its numbers are allowed. -/
theorem isAllowed_eq_true_iff :
    isAllowed c text = true ↔ ∃ v, Version.parse text = .ok v ∧ c.allows v = true := by
  unfold isAllowed
  cases Version.parse text with
  | error e => simp
  | ok v => simp

/-- A choice without a first line is a search through the known versions. -/
theorem choose_of_blank (hc : Constraint.parse constraint = .ok c)
    (h : ∀ text ∈ explicit, firstLine text = "") :
    choose constraint explicit =
      (preferred.find? (isAllowed c)).elim (.error (.unsatisfiable c.render)) .ok := by
  unfold choose
  split
  · next e he =>
    rw [hc] at he
    cases he
  · next c' hc' =>
    obtain rfl : c = c' := Except.ok.inj (hc.symm.trans hc')
    -- the search is not to be run
    generalize preferred.find? (isAllowed c) = found
    cases explicit with
    | none => cases found <;> rfl
    | some text =>
      dsimp only
      rw [if_pos (h text rfl)]
      cases found <;> rfl

/-- A choice with a first line depends on this line only. -/
theorem choose_of_firstLine (hc : Constraint.parse constraint = .ok c)
    (h : firstLine text ≠ "") :
    choose constraint (some text) = match Version.parse (firstLine text) with
      | .error e => .error e
      | .ok v =>
        if c.allows v then .ok (firstLine text)
        else .error (.mismatch (firstLine text) c.render) := by
  unfold choose
  split
  · next e he =>
    rw [hc] at he
    cases he
  · next c' hc' =>
    obtain rfl : c = c' := Except.ok.inj (hc.symm.trans hc')
    generalize preferred.find? (isAllowed c) = found
    refine (if_neg h).trans ?_
    cases Version.parse (firstLine text) <;> rfl

/-- A choice needs a constraint that can be read. -/
theorem exists_parse_of_choose (h : choose constraint explicit = .ok version) :
    ∃ c, Constraint.parse constraint = .ok c := by
  unfold choose at h
  split at h
  · cases h
  · next c hc => exact ⟨c, hc⟩

/-! ## What a choice leads to -/

/-- Without a first line, a choice leads to the first known version that is allowed. -/
theorem choose_eq_ok_iff_of_blank (hc : Constraint.parse constraint = .ok c)
    (h : ∀ text ∈ explicit, firstLine text = "") :
    choose constraint explicit = .ok version ↔
      preferred.find? (isAllowed c) = some version := by
  rw [choose_of_blank hc h]
  generalize preferred.find? (isAllowed c) = found
  cases found <;> simp

/-- Without a first line, a choice fails when no known version is allowed, and only then. -/
theorem choose_eq_error_iff_of_blank {e : VersionError} (hc : Constraint.parse constraint = .ok c)
    (h : ∀ text ∈ explicit, firstLine text = "") :
    choose constraint explicit = .error e ↔
      preferred.find? (isAllowed c) = none ∧ e = .unsatisfiable c.render := by
  rw [choose_of_blank hc h]
  generalize preferred.find? (isAllowed c) = found
  cases found <;> simp [eq_comm]

/-- With a first line, a choice leads to this line when it is read and allowed, and only then. -/
theorem choose_eq_ok_iff_of_firstLine (hc : Constraint.parse constraint = .ok c)
    (hl : firstLine text ≠ "") :
    choose constraint (some text) = .ok version ↔
      version = firstLine text ∧ isAllowed c (firstLine text) = true := by
  rw [choose_of_firstLine hc hl]
  unfold isAllowed
  cases Version.parse (firstLine text) with
  | error e => simp
  | ok v => by_cases ha : c.allows v = true <;> simp [ha, eq_comm]

/-- With a first line, a choice fails when this line is no version or is not allowed, and only
then. -/
theorem choose_eq_error_iff_of_firstLine {e : VersionError}
    (hc : Constraint.parse constraint = .ok c) (hl : firstLine text ≠ "") :
    choose constraint (some text) = .error e ↔
      Version.parse (firstLine text) = .error e ∨
        ∃ v, Version.parse (firstLine text) = .ok v ∧ c.allows v = false ∧
          e = .mismatch (firstLine text) c.render := by
  rw [choose_of_firstLine hc hl]
  cases Version.parse (firstLine text) with
  | error e => simp
  | ok v => by_cases ha : c.allows v = true <;> simp [ha, @eq_comm _ _ e]

/-- A choice leads to a known version or to the first line of a text, and the constraint allows
it. -/
theorem choose_cases (h : choose constraint (some text) = .ok version) :
    ∃ c, Constraint.parse constraint = .ok c ∧ isAllowed c version = true ∧
      (firstLine text = "" ∧ version ∈ preferred ∨
        firstLine text ≠ "" ∧ version = firstLine text) := by
  obtain ⟨c, hc⟩ := exists_parse_of_choose h
  by_cases hl : firstLine text = ""
  · have hblank : ∀ t ∈ some text, firstLine t = "" := fun _ ht ↦ Option.mem_some_iff.mp ht ▸ hl
    have hfound := (choose_eq_ok_iff_of_blank hc hblank).mp h
    exact ⟨c, hc, List.find?_some hfound, .inl ⟨hl, List.mem_of_find?_eq_some hfound⟩⟩
  · obtain ⟨rfl, hallowed⟩ := (choose_eq_ok_iff_of_firstLine hc hl).mp h
    exact ⟨c, hc, hallowed, .inr ⟨hl, rfl⟩⟩

/-- A choice leads to one line, which reads as a version that the constraint allows. -/
theorem choose_eq_ok (h : choose constraint (some text) = .ok version) :
    firstLine version = version ∧ ∃ c v, Constraint.parse constraint = .ok c ∧
      Version.parse version = .ok v ∧ c.allows v = true := by
  obtain ⟨c, hc, hallowed, hversion⟩ := choose_cases h
  obtain ⟨v, hv, ha⟩ := isAllowed_eq_true_iff.mp hallowed
  refine ⟨?_, c, v, hc, hv, ha⟩
  rcases hversion with ⟨-, hknown⟩ | ⟨-, rfl⟩
  · have hline : ∀ known ∈ preferred, firstLine known = known := by decide
    exact hline version hknown
  · exact Text.firstLine_firstLine text

/-- A text whose first line is not blank decides a choice itself. -/
theorem eq_firstLine_of_choose (hl : firstLine text ≠ "")
    (h : choose constraint (some text) = .ok version) : version = firstLine text := by
  obtain ⟨-, -, -, ⟨hblank, -⟩ | ⟨-, hversion⟩⟩ := choose_cases h
  · exact absurd hblank hl
  · exact hversion

/-- Without a first line, a choice leads to a known version. -/
theorem mem_preferred_of_choose (hl : firstLine text = "")
    (h : choose constraint (some text) = .ok version) : version ∈ preferred := by
  obtain ⟨-, -, -, ⟨-, hknown⟩ | ⟨hline, -⟩⟩ := choose_cases h
  · exact hknown
  · exact absurd hl hline

/-- The ways in which a choice under a readable constraint fails. -/
theorem choose_eq_error {e : VersionError} (hc : Constraint.parse constraint = .ok c)
    (h : choose constraint (some text) = .error e) :
    e = .unsatisfiable c.render ∨ e = .mismatch (firstLine text) c.render ∨
      Version.parse text = .error e := by
  by_cases hl : firstLine text = ""
  · have hblank : ∀ t ∈ some text, firstLine t = "" := fun _ ht ↦ Option.mem_some_iff.mp ht ▸ hl
    exact .inl ((choose_eq_error_iff_of_blank hc hblank).mp h).2
  · rw [choose_eq_error_iff_of_firstLine hc hl, parse_firstLine] at h
    rcases h with h | ⟨-, -, -, h⟩
    · exact .inr (.inr h)
    · exact .inr (.inl h)

end ContainerBuild.Version
