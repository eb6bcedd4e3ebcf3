import ContainerBuild.Manifest.Problems
import ContainerBuild.Proofs.Config.Bounds
import ContainerBuild.Proofs.Config.Checks
import ContainerBuild.Proofs.Dict.Lookup
import ContainerBuild.Proofs.Version.Choice

/-!
# A manifest without problems can be resolved

The rules for a target are checked twice: all of them when the manifest is looked at, and one
after the other when the target is resolved. Rule by rule, a check that finds no problem is
one that resolving passes, so resolving a manifest without problems fails only for what the
context says or because no version suits the constraint.
-/

namespace ContainerBuild

open Text (nonBlank?)

/-- The version that a target asks for itself; a blank one counts as none. -/
def Target.ownVersion? (t : Target) : Option String := t.pythonVersion.bind nonBlank?

/-- The failures that are due to the context or to the choice of a version: the version or the
lock file cannot be read from the context, the version that it pins is none, or the constraint
does not allow the version. -/
def ResolveError.IsContextual (t : Target) (ctx : Context) : ResolveError → Prop
  | .pinnedVersion reason => t.ownVersion? = none ∧ ctx.pinned = .error reason
  | .lockFile _ path reason => t.lockPath? = some path ∧ ctx.lines path = .error reason
  | .version _ (.mismatch _ _) => True
  | .version _ (.unsatisfiable _) => True
  | .version _ (.invalidVersion text reason) =>
    t.ownVersion? = none ∧ ∃ pinned, ctx.pinned = .ok pinned ∧
      Version.parse pinned = .error (.invalidVersion text reason)
  | _ => False

namespace Config

variable {label constraint : String} {t : Target} {d : Declaration} {ctx : Context}
  {e : ResolveError}

/-! ## Rule by rule -/

/-- The flavor has no problem exactly when it can be resolved. -/
theorem flavorProblems_eq_nil_iff (label : String) :
    t.flavorProblems = [] ↔ ∃ flavor, flavorOf label t = .ok flavor := by
  simp only [Target.flavorProblems, flavorOf]
  cases hf : t.flavor with
  | none => exact iff_of_true rfl ⟨.debian, rfl⟩
  | some text =>
    simp only [Option.getD_some]
    cases hp : Flavor.parse text with
    | ok flavor => exact iff_of_true rfl ⟨flavor, rfl⟩
    | error name =>
      refine iff_of_false (by simp only [reduceCtorEq, not_false_eq_true]) ?_
      rintro ⟨flavor, h⟩
      cases h

/-- The lock file has no problem exactly when its path can be resolved. -/
theorem lockProblems_eq_nil_iff (label : String) :
    t.lockProblems = [] ↔ lockPathOf label t = .ok t.lockPath? := by
  simp only [Target.lockProblems, lockPathOf]
  cases hl : t.lockPath? with
  | none => exact iff_of_true rfl rfl
  | some path =>
    by_cases hx : t.extras.isEmpty = true
    · cases hp : LockPath.flaw? path with
      | none => simp [hx, hp]
      | some flaw => simp [hx, hp]
    · simp [hx]

/-- The extras have no problem exactly when the project declares all of them. -/
theorem extraProblems_eq_nil_iff :
    t.extraProblems d = [] ↔ ∀ extra ∈ t.extras, ∃ group, d.group? extra = some group := by
  simp only [Target.extraProblems, List.map_eq_nil_iff, List.filter_eq_nil_iff,
    Option.isNone_iff_eq_none, Option.ne_none_iff_exists']

private theorem indexProblems_eq_nil_iff (label : String) (i : PackageIndex) :
    Target.indexProblems i = [] ↔ indexFlaw? label i = none := by
  simp only [Target.indexProblems, indexFlaw?]
  cases Url.parse i.url with
  | error e => simp
  | ok url => simp

private theorem fileProblems_eq_nil_iff (label : String) (l : FileList) (f : FileSpec) :
    Target.fileProblems l f = [] ↔ fileFlaw? label l f = none := by
  simp only [Target.fileProblems, fileFlaw?]
  by_cases hc : f.isComplete = true
  · by_cases hs : (f.checksum.isSome && !l.fetched) = true
    · simp [hc, hs]
    · simp [hc, hs]
  · simp [hc]

private theorem parse_ownVersion (h : t.versionProblems = []) {version : String}
    (hv : t.ownVersion? = some version) : ∃ v, Version.parse version = .ok v := by
  simp only [Target.ownVersion?] at hv
  simp only [Target.versionProblems] at h
  cases hp : t.pythonVersion with
  | none => simp only [hp, Option.bind_none, reduceCtorEq] at hv
  | some text =>
    simp only [hp, Option.bind_some] at hv h
    rw [Text.nonBlank?_eq_some_iff] at hv
    rw [hv.2]
    cases hr : Version.parse text with
    | ok v => exact ⟨v, Version.parse_trim hr⟩
    | error e => simp only [hr, reduceCtorEq] at h

private theorem eq_of_explicitVersion {version : String} (h : explicitVersion t ctx = .ok version) :
    t.ownVersion? = some version ∨ t.ownVersion? = none ∧ ctx.pinned = .ok version := by
  simp only [explicitVersion] at h
  split at h
  · next own ho =>
    cases h
    exact .inl ho
  · next ho =>
    split at h
    · next pinned hp =>
      cases h
      exact .inr ⟨ho, hp⟩
    · cases h

private theorem isContextual_of_explicitVersion (h : explicitVersion t ctx = .error e) :
    e.IsContextual t ctx := by
  simp only [explicitVersion] at h
  split at h
  · cases h
  · next ho =>
    split at h
    · cases h
    · next reason hp =>
      cases h
      exact ⟨ho, hp⟩

private theorem isContextual_of_pythonVersionOf {c : Constraint}
    (hc : Constraint.parse constraint = .ok c)
    (h : t.versionProblems = []) (he : pythonVersionOf label constraint t ctx = .error e) :
    e.IsContextual t ctx := by
  simp only [pythonVersionOf] at he
  cases hx : explicitVersion t ctx with
  | error e' =>
    simp only [hx] at he
    cases he
    exact isContextual_of_explicitVersion hx
  | ok version =>
    simp only [hx] at he
    split at he
    · cases he
    · next reason hr =>
      cases he
      rcases Version.choose_eq_error hc hr with rfl | rfl | hp
      · trivial
      · trivial
      · rcases eq_of_explicitVersion hx with ho | ⟨ho, hpin⟩
        · obtain ⟨v, hv⟩ := parse_ownVersion h ho
          rw [hv] at hp
          cases hp
        · obtain ⟨flaw, rfl⟩ := Version.parse_eq_error hp
          exact ⟨ho, version, hpin, hp⟩

private theorem isContextual_of_dependenciesOf (h : t.extraProblems d = [])
    (he : dependenciesOf label d t ctx t.lockPath? = .error e) : e.IsContextual t ctx := by
  cases hl : t.lockPath? with
  | none =>
    obtain ⟨groups, hg⟩ : ∃ groups, groupDependencies label d t.extras = .ok groups :=
      exists_groupDependencies_iff.mpr (extraProblems_eq_nil_iff.mp h)
    simp only [dependenciesOf, hl, hg, Except.map, reduceCtorEq] at he
  | some path =>
    simp only [dependenciesOf, hl] at he
    cases hc : ctx.lines path with
    | ok lines => simp only [hc, reduceCtorEq] at he
    | error reason =>
      simp only [hc] at he
      cases he
      exact ⟨hl, hc⟩

/-- The indices and the file entries have no problem exactly when resolving finds no flaw. -/
theorem targetFlaw?_eq_none_iff (label : String) :
    targetFlaw? label t = none ↔ t.indices.flatMap Target.indexProblems = [] ∧
      (t.fileLists.flatMap fun l ↦ l.specs.flatMap (Target.fileProblems l)) = [] := by
  simp only [targetFlaw?, Option.or_eq_none_iff, List.findSome?_eq_none_iff,
    List.flatMap_eq_nil_iff, indexProblems_eq_nil_iff label, fileProblems_eq_nil_iff label]

/-! ## All rules together -/

private theorem isContextual_of_selectTarget {m : Manifest} {requested name : Option String}
    (hs : selectTarget m.targets requested = .ok (name, t)) {c : Constraint}
    (hc : Constraint.parse m.declaration.requiresPython = .ok c)
    (ht : t.problems m.declaration = []) (he : resolve m requested ctx = .error e) :
    e.IsContextual t ctx := by
  simp only [Target.problems, List.append_eq_nil_iff] at ht
  obtain ⟨⟨⟨⟨⟨hf, hv⟩, hl⟩, hx⟩, hi⟩, hfiles⟩ := ht
  obtain ⟨flavor, hflavor⟩ := (flavorProblems_eq_nil_iff (name.getD implicitTarget)).mp hf
  have hlock := (lockProblems_eq_nil_iff (name.getD implicitTarget)).mp hl
  have hflaw := (targetFlaw?_eq_none_iff (name.getD implicitTarget)).mpr ⟨hi, hfiles⟩
  cases (resolve_eq_error_iff hs).mp he with
  | flavor hrefused =>
    rw [hflavor] at hrefused
    cases hrefused
  | lockPath _ hrefused =>
    rw [hlock] at hrefused
    cases hrefused
  | pythonVersion _ _ hrefused => exact isContextual_of_pythonVersionOf hc hv hrefused
  | dependencies _ hpath _ hrefused =>
    rw [hlock] at hpath
    obtain rfl := Except.ok.inj hpath
    exact isContextual_of_dependenciesOf hx hrefused
  | flaw _ _ _ _ hrefused =>
    rw [hflaw] at hrefused
    cases hrefused

/-- A target that says nothing has no problems. -/
theorem problems_default (d : Declaration) : ({} : Target).problems d = [] := rfl

private theorem of_problems_eq_nil {m : Manifest} (h : m.problems = []) :
    (∃ c, Constraint.parse m.declaration.requiresPython = .ok c) ∧
      ∀ p ∈ m.targets.entries, p.2.problems m.declaration = [] := by
  simp only [Manifest.problems, List.append_eq_nil_iff, List.flatMap_eq_nil_iff,
    List.map_eq_nil_iff] at h
  obtain ⟨⟨-, hc⟩, ht⟩ := h
  refine ⟨?_, ht⟩
  cases hp : Constraint.parse m.declaration.requiresPython with
  | ok c => exact ⟨c, rfl⟩
  | error e => simp only [hp, reduceCtorEq] at hc

private theorem exists_selectTarget {targets : Dict Target} {requested : Option String}
    (hr : ∀ text ∈ requested, Text.trim text = "" ∨ Text.trim text ∈ targets.keys) :
    ∃ name target, selectTarget targets requested = .ok (name, target) ∧
      (target = {} ∨ ∃ key, (key, target) ∈ targets.entries) := by
  simp only [selectTarget]
  cases hn : requested.bind nonBlank? with
  | none =>
    cases he : targets.entries with
    | nil => exact ⟨none, {}, rfl, .inl rfl⟩
    | cons p rest => exact ⟨some p.1, p.2, rfl, .inr ⟨p.1, List.mem_cons_self⟩⟩
  | some key =>
    obtain ⟨text, htext, hkey⟩ := Option.bind_eq_some_iff.mp hn
    rw [Text.nonBlank?_eq_some_iff] at hkey
    obtain ⟨hne, rfl⟩ := hkey
    obtain ⟨target, hg, hmem⟩ := Dict.exists_get?_of_mem_keys ((hr text htext).resolve_left hne)
    simp only [hg]
    exact ⟨some (Text.trim text), target, rfl, .inr ⟨_, hmem⟩⟩

/-- Of a manifest without problems, every request for nothing or for a key selects a target, and
resolving it fails only for the context or because no version suits the constraint. Where numbers
do not begin again behind the largest one, the outcome is the same for a manifest with room, and
nothing but a number without room can stop it. -/
theorem resolve_of_problems_eq_nil {m : Manifest} (hm : m.problems = [])
    {requested : Option String}
    (hr : ∀ text ∈ requested, Text.trim text = "" ∨ Text.trim text ∈ m.targets.keys)
    (ctx : Context) :
    (∃ name target, selectTarget m.targets requested = .ok (name, target) ∧
      ∀ e, resolve m requested ctx = .error e → e.IsContextual target ctx) ∧
    (m.HasRoom → (Guarded.resolve m requested ctx).run = .ok (resolve m requested ctx)) ∧
    ∀ fault, (Guarded.resolve m requested ctx).run = .error fault → fault = .overflow := by
  obtain ⟨⟨c, hc⟩, ht⟩ := of_problems_eq_nil hm
  obtain ⟨name, target, hs, htarget⟩ := exists_selectTarget hr
  have hp : target.problems m.declaration = [] := by
    rcases htarget with rfl | ⟨key, hmem⟩
    · exact problems_default m.declaration
    · exact ht (key, target) hmem
  have hagrees := Guarded.agrees_resolve m requested ctx
  exact ⟨⟨name, target, hs, fun e he ↦ isContextual_of_selectTarget hs hc hp he⟩,
    hagrees.eq_ok, fun _ ↦ hagrees.eq_overflow⟩

/-- A target with an extra, in a context whose pinned version cannot be read. -/
theorem resolve_of_problems_eq_nil_unreadable :
    let m : Manifest :=
      { project :=
          { name := "app"
            optionalDependencies := [("web", ["flask"])]
            requiresPython := some "^3.8" }
        targets := .ofList [("api", { flavor := some " alpine ", extras := ["web"] })] }
    let ctx : Context := ⟨.error "denied", fun _ ↦ .ok []⟩
    m.problems = [] ∧ m.HasRoom ∧
      resolve m (some " api ") ctx = .error (.pinnedVersion "denied") ∧
      (Guarded.resolve m (some " api ") ctx).run = .ok (.error (.pinnedVersion "denied")) ∧
      ∃ name target, selectTarget m.targets (some " api ") = .ok (name, target) ∧
        (ResolveError.pinnedVersion "denied").IsContextual target ctx := by
  intro m ctx
  have hm : m.problems = [] := by decide
  have hread : Constraint.parse "^3.8" = .ok ⟨"^3.8", [⟨.caret, [3, 8], false⟩]⟩ := by decide
  have hroom : m.HasRoom :=
    { dependencies := fun _ hnone ↦ nomatch hnone
      requiresPython := fun c hc ↦ by
        obtain rfl := Except.ok.inj (hread.symm.trans hc)
        simp [Constraint.HasRoom, Release.HasRoom, Release.componentLimit] }
  have he : resolve m (some " api ") ctx = .error (.pinnedVersion "denied") := by rfl
  have hr : ∀ text ∈ some " api ", Text.trim text = "" ∨ Text.trim text ∈ m.targets.keys := by
    decide
  obtain ⟨⟨name, target, hs, h⟩, hguarded, -⟩ := resolve_of_problems_eq_nil hm hr ctx
  exact ⟨hm, hroom, he, he ▸ hguarded hroom, name, target, hs, h _ he⟩

end Config

end ContainerBuild
