import ContainerBuild.Proofs.Config.Resolved
import ContainerBuild.Proofs.Config.Validity

/-!
# Problems of what resolves

Resolving passes every check that is also made when the manifest is looked at, so of a target
that resolves the manifest has no problem, with one exception. Resolving takes a version as its
text trimmed, and a blank one for none, whereas the look at the manifest reads the first line of
the text as it is. A version whose first line is blank is therefore a problem, even of a target
that resolves.
-/

namespace ContainerBuild

open Text (firstLine nonBlank? trim)

/-- The problem with a version whose first line is blank. -/
def TargetProblem.blankVersion : TargetProblem := .pythonVersion (.invalidVersion "" .empty)

namespace Config

variable {m : Manifest} {t : Target} {ctx : Context} {c : Config} {d : Declaration}
  {label constraint key : String}

/-! ## Rule by rule -/

private theorem declared_of_dependenciesOf {requirements : Option String}
    {dependencies : List String} (hlock : lockPathOf label t = .ok requirements)
    (h : dependenciesOf label d t ctx requirements = .ok dependencies) :
    ∀ extra ∈ t.extras, ∃ group, d.group? extra = some group := by
  cases requirements with
  | some path =>
    rw [((lockPathOf_eq_ok hlock).2 path rfl).1]
    exact List.forall_mem_nil _
  | none =>
    rw [dependenciesOf] at h
    cases hg : groupDependencies label d t.extras with
    | error e =>
      rw [hg] at h
      cases h
    | ok groups => exact exists_groupDependencies_iff.mp ⟨groups, hg⟩

private theorem parse_of_pythonVersionOf {version text : String}
    (h : pythonVersionOf label constraint t ctx = .ok version)
    (htext : t.pythonVersion = some text) (hline : firstLine text ≠ "") :
    ∃ v, Version.parse text = .ok v := by
  have htrim : firstLine (trim text) = firstLine text := Text.firstLine_trim hline
  have hown : t.pythonVersion.bind nonBlank? = some (trim text) := by
    rw [htext, Option.bind_some, Text.nonBlank?_eq_some_iff]
    refine ⟨fun hempty ↦ hline ?_, rfl⟩
    rw [← htrim, hempty]
    rfl
  simp only [pythonVersionOf, explicitVersion, hown] at h
  split at h
  · next chosen hchoose =>
    obtain ⟨-, -, v, -, hv, -⟩ := Version.choose_eq_ok hchoose
    have hchosen : chosen = firstLine (trim text) :=
      Version.eq_firstLine_of_choose (htrim.symm ▸ hline) hchoose
    rw [hchosen, htrim, Version.parse_firstLine] at hv
    exact ⟨v, hv⟩
  · cases h

private theorem mem_versionProblems_iff {version : String}
    (h : pythonVersionOf label constraint t ctx = .ok version) {problem : TargetProblem} :
    problem ∈ t.versionProblems ↔
      problem = .blankVersion ∧ ∃ text, t.pythonVersion = some text ∧ firstLine text = "" := by
  cases htext : t.pythonVersion with
  | none => simp [Target.versionProblems, htext]
  | some text =>
    -- A version with a first line is chosen as it stands, so it was read; a blank line never is.
    by_cases hline : firstLine text = ""
    · have hparse : Version.parse text = .error (.invalidVersion "" .empty) := by
        rw [← Version.parse_firstLine, hline]
        rfl
      simp [Target.versionProblems, htext, hparse, hline, TargetProblem.blankVersion]
    · obtain ⟨v, hv⟩ := parse_of_pythonVersionOf h htext hline
      simp [Target.versionProblems, htext, hv, hline]

/-! ## All rules together -/

private theorem Admits.problems_eq (h : c.Admits m t ctx) :
    t.problems m.declaration = t.versionProblems := by
  have hflavor := (flavorProblems_eq_nil_iff c.label).mpr ⟨c.flavor, h.flavor⟩
  have hlock : t.lockProblems = [] := by
    rw [lockProblems_eq_nil_iff c.label, h.requirements, (lockPathOf_eq_ok h.requirements).1]
  have hextras := extraProblems_eq_nil_iff.mpr
    (declared_of_dependenciesOf h.requirements h.dependencies)
  obtain ⟨hindices, hfiles⟩ := (targetFlaw?_eq_none_iff c.label).mp h.flawless
  simp only [Target.problems, hflavor, hlock, hextras, hindices, hfiles, List.nil_append,
    List.append_nil]

private theorem target_mem_problems_iff (hkey : m.targets.get? key = some t)
    {problem : TargetProblem} :
    Problem.target key problem ∈ m.problems ↔ problem ∈ t.problems m.declaration := by
  have hentry : Problem.target key problem ∈ m.problems ↔
      ∃ target, (key, target) ∈ m.targets.entries ∧ problem ∈ target.problems m.declaration := by
    simp only [Manifest.problems, List.mem_append, List.mem_flatMap, List.mem_map]
    constructor
    · rintro ((h | h) | ⟨⟨name, target⟩, hmem, other, hother, heq⟩)
      · split at h
        · cases List.mem_singleton.mp h
        · cases h
      · split at h
        · cases h
        · cases List.mem_singleton.mp h
      · cases heq
        exact ⟨target, hmem, hother⟩
    · rintro ⟨target, hmem, hproblem⟩
      exact .inr ⟨(key, target), hmem, problem, hproblem, rfl⟩
  rw [hentry]
  constructor
  · rintro ⟨target, hmem, hproblem⟩
    obtain rfl : t = target := Option.some.inj (hkey.symm.trans (Dict.mem_entries_iff_get?.mp hmem))
    exact hproblem
  · exact fun hproblem ↦ ⟨t, Dict.mem_entries_iff_get?.mpr hkey, hproblem⟩

private theorem requiresPython_mem_problems {e : VersionError}
    (h : .requiresPython e ∈ m.problems) :
    Constraint.parse m.declaration.requiresPython = .error e := by
  simp only [Manifest.problems, List.mem_append, List.mem_flatMap, List.mem_map] at h
  rcases h with (h | h) | ⟨_, _, _, _, heq⟩
  · split at h
    · cases List.mem_singleton.mp h
    · cases h
  · split at h
    · cases h
    · next e' he =>
      cases List.mem_singleton.mp h
      exact he
  · cases heq

/-- A key without blanks at its ends selects its target. The empty one asks for none, but it is
the first of all keys. -/
theorem selectTarget_of_get? {targets : Dict Target} (htrim : trim key = key)
    (hkey : targets.get? key = some t) : selectTarget targets (some key) = .ok (some key, t) := by
  by_cases hempty : key = ""
  · subst hempty
    obtain ⟨rest, hentries⟩ := Dict.exists_entries_eq_of_get?_empty hkey
    have hnone : (some "").bind nonBlank? = none := rfl
    simp only [selectTarget, hnone, hentries]
  · have hsome : (some key).bind nonBlank? = some key := by
      rw [Option.bind_some, Text.nonBlank?_eq_some_iff, htrim]
      exact ⟨hempty, rfl⟩
    simp only [selectTarget, hsome, hkey]

/-- When the target of a key resolves, the constraint of the project is no problem, and the target
has one exactly when its version has a blank first line. -/
theorem problems_of_resolve (htrim : trim key = key) (hkey : m.targets.get? key = some t)
    (h : resolve m (some key) ctx = .ok c) :
    (∀ e, Problem.requiresPython e ∉ m.problems) ∧
      ∀ problem, Problem.target key problem ∈ m.problems ↔ problem = .blankVersion ∧
        ∃ text, t.pythonVersion = some text ∧ firstLine text = "" := by
  obtain ⟨selected, hselect, hadmits⟩ := resolve_eq_ok_iff.mp h
  rw [selectTarget_of_get? htrim hkey] at hselect
  obtain ⟨-, rfl⟩ := Prod.mk.inj (Except.ok.inj hselect)
  constructor
  · intro e he
    obtain ⟨-, known, -, hknown, -⟩ := pythonVersionOf_eq_ok hadmits.pythonVersion
    rw [requiresPython_mem_problems he] at hknown
    cases hknown
  · intro problem
    rw [target_mem_problems_iff hkey, hadmits.problems_eq,
      mem_versionProblems_iff hadmits.pythonVersion]

/-- A target whose flavor and lock file are blank, and whose version stands before a line feed. -/
theorem problems_of_resolve_lines :
    let t : Target :=
      { flavor := some " ", requirements := some "\t", pythonVersion := some " 3.12\n3.9" }
    let m : Manifest :=
      { project := { name := "app", requiresPython := some ">=3.8" }
        targets := .ofList [("api", t), ("web", { flavor := some "alpine" })] }
    let c : Config := { name := "app", target := some "api", pythonVersion := "3.12" }
    m.targets.get? "api" = some t ∧ resolve m (some "api") .none = .ok c ∧
      (∀ e, Problem.requiresPython e ∉ m.problems) ∧
      ∀ problem, Problem.target "api" problem ∉ m.problems := by
  intro t m c
  have hkey : m.targets.get? "api" = some t := by decide +kernel
  have h : resolve m (some "api") .none = .ok c := by decide +kernel
  obtain ⟨hconstraint, htarget⟩ := problems_of_resolve (by decide) hkey h
  refine ⟨hkey, h, hconstraint, fun problem hproblem ↦ ?_⟩
  obtain ⟨-, text, htext, hline⟩ := (htarget problem).mp hproblem
  obtain rfl : " 3.12\n3.9" = text := Option.some.inj htext
  exact absurd hline (by decide +kernel)

/-- A target with a blank version resolves, and the manifest has a problem with it. -/
theorem blankVersion_mem_problems :
    let m : Manifest :=
      { project := { name := "a" }, targets := .ofList [("t", { pythonVersion := some "" })] }
    let c : Config := { name := "a", target := some "t", pythonVersion := "3.13" }
    m.declaration.name ≠ "" ∧ trim "t" = "t" ∧ resolve m (some "t") .none = .ok c ∧
      Problem.target "t" .blankVersion ∈ m.problems := by
  intro m c
  have h : resolve m (some "t") .none = .ok c := by decide +kernel
  have hproblems : m.problems = [.target "t" .blankVersion] := by decide +kernel
  exact ⟨by decide, by decide, h, hproblems ▸ List.mem_singleton_self _⟩

end Config

end ContainerBuild
