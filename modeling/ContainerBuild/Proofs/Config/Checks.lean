import ContainerBuild.Config.Resolve
import Mathlib.Data.List.Forall2

/-!
# The checks of resolving

Once a target is selected, resolving makes one check after the other, and the first that fails
decides. `Config.Refuses` has one case for each check, behind those that it waits for, and
`resolve_eq_error_iff` says that resolving fails in no other way. Each check has errors of its own,
so the error tells which check it was. Two courses of checks that give the same answers lead to the
same result.
-/

namespace ContainerBuild.Config

variable {m m' : Manifest} {requested requested' name : Option String} {ctx ctx' : Context}
  {t : Target} {d : Declaration} {label constraint : String} {e : ResolveError}

/-- The first check that a selected target does not pass, and the error that it leads to. -/
inductive Refuses (m : Manifest) (t : Target) (ctx : Context) (label : String)
    (e : ResolveError) : Prop
  | flavor (h : flavorOf label t = .error e)
  | lockPath {flavor : Flavor} (hf : flavorOf label t = .ok flavor)
    (h : lockPathOf label t = .error e)
  | pythonVersion {flavor : Flavor} {requirements : Option String}
    (hf : flavorOf label t = .ok flavor) (hl : lockPathOf label t = .ok requirements)
    (h : pythonVersionOf label m.declaration.requiresPython t ctx = .error e)
  | dependencies {flavor : Flavor} {requirements : Option String} {version : String}
    (hf : flavorOf label t = .ok flavor) (hl : lockPathOf label t = .ok requirements)
    (hv : pythonVersionOf label m.declaration.requiresPython t ctx = .ok version)
    (h : dependenciesOf label m.declaration t ctx requirements = .error e)
  | flaw {flavor : Flavor} {requirements : Option String} {version : String}
    {dependencies : List String}
    (hf : flavorOf label t = .ok flavor) (hl : lockPathOf label t = .ok requirements)
    (hv : pythonVersionOf label m.declaration.requiresPython t ctx = .ok version)
    (hd : dependenciesOf label m.declaration t ctx requirements = .ok dependencies)
    (h : targetFlaw? label t = some e)

/-- Once a target is selected, resolving fails exactly when a check refuses the target. -/
theorem resolve_eq_error_iff (hselect : selectTarget m.targets requested = .ok (name, t)) :
    resolve m requested ctx = .error e ↔ Refuses m t ctx (name.getD implicitTarget) e := by
  simp only [resolve, complete, bind, Except.bind, hselect]
  constructor
  · intro h
    cases hf : flavorOf (name.getD implicitTarget) t with
    | error e' =>
      simp only [hf] at h
      cases h
      exact .flavor hf
    | ok flavor =>
      cases hl : lockPathOf (name.getD implicitTarget) t with
      | error e' =>
        simp only [hf, hl] at h
        cases h
        exact .lockPath hf hl
      | ok requirements =>
        simp only [hf, hl] at h
        split at h
        · next hv =>
          cases h
          exact .pythonVersion hf hl hv
        · next version hv =>
          split at h
          · next hd =>
            cases h
            exact .dependencies hf hl hv hd
          · next dependencies hd =>
            split at h
            · next hflaw =>
              cases h
              exact .flaw hf hl hv hd hflaw
            · cases h
  · intro h
    cases h with
    | flavor h => simp only [h]
    | lockPath hf h => simp only [hf, h]
    | pythonVersion hf hl h => simp only [hf, hl, h]
    | dependencies hf hl hv h => simp only [hf, hl, hv, h]
    | flaw hf hl hv hd h => simp only [hf, hl, hv, hd, h]

/-- When one target is selected and its version and its dependencies are the same, so is the
result. -/
theorem resolve_eq_of_checks (hname : m.declaration.name = m'.declaration.name)
    (hauthors : m.declaration.authors = m'.declaration.authors)
    (hselect : selectTarget m.targets requested = selectTarget m'.targets requested')
    (hversion : ∀ name t, selectTarget m.targets requested = .ok (name, t) →
      pythonVersionOf (name.getD implicitTarget) m.declaration.requiresPython t ctx =
        pythonVersionOf (name.getD implicitTarget) m'.declaration.requiresPython t ctx')
    (hdependencies : ∀ name t requirements, selectTarget m.targets requested = .ok (name, t) →
      lockPathOf (name.getD implicitTarget) t = .ok requirements →
      dependenciesOf (name.getD implicitTarget) m.declaration t ctx requirements =
        dependenciesOf (name.getD implicitTarget) m'.declaration t ctx' requirements) :
    resolve m requested ctx = resolve m' requested' ctx' := by
  simp only [resolve, complete, bind, Except.bind, ← hselect, hname, hauthors]
  cases hs : selectTarget m.targets requested with
  | error e => rfl
  | ok selected =>
    obtain ⟨name, t⟩ := selected
    dsimp only
    cases flavorOf (name.getD implicitTarget) t with
    | error e => rfl
    | ok flavor =>
      cases hlock : lockPathOf (name.getD implicitTarget) t with
      | error e => rfl
      | ok requirements =>
        dsimp only
        rw [hversion name t hs, hdependencies name t requirements hs hlock]

/-! ## Check by check -/

/-- A flavor is refused as an unknown one. -/
theorem exists_eq_of_flavorOf (h : flavorOf label t = .error e) :
    ∃ flavor, e = .unknownFlavor label flavor := by
  rw [flavorOf] at h
  split at h
  · cases h
  · exact ⟨_, (Except.error.inj h).symm⟩

/-- A lock file is refused beside extras or for its path. -/
theorem exists_eq_of_lockPathOf (h : lockPathOf label t = .error e) :
    e = .exclusiveOptions label ∨ ∃ path flaw, e = .invalidLockPath label path flaw := by
  rw [lockPathOf] at h
  split at h
  · cases h
  · split at h
    · exact .inl (Except.error.inj h).symm
    · split at h
      · exact .inr ⟨_, _, (Except.error.inj h).symm⟩
      · cases h

/-- A version is refused when the pinned one is needed and cannot be read, or when none can be
chosen. -/
theorem exists_eq_of_pythonVersionOf
    (h : pythonVersionOf label constraint t ctx = .error e) :
    (∃ reason, e = .pinnedVersion reason) ∨ ∃ reason, e = .version label reason := by
  rw [pythonVersionOf] at h
  split at h
  · next e' he =>
    obtain rfl : e' = e := Except.error.inj h
    rw [explicitVersion] at he
    split at he
    · cases he
    · split at he
      · cases he
      · exact .inl ⟨_, (Except.error.inj he).symm⟩
  · split at h
    · cases h
    · exact .inr ⟨_, (Except.error.inj h).symm⟩

/-- Groups are put together when the project has all of them. -/
theorem groupDependencies_eq_ok_iff {extras dependencies : List String} :
    groupDependencies label d extras = .ok dependencies ↔
      ∃ groups, List.Forall₂ (fun extra group ↦ d.group? extra = some group) extras groups ∧
        dependencies = groups.flatten := by
  induction extras generalizing dependencies with
  | nil =>
    rw [groupDependencies, Except.ok.injEq]
    constructor
    · rintro rfl
      exact ⟨[], .nil, rfl⟩
    · rintro ⟨groups, hgroups, rfl⟩
      cases hgroups
      rfl
  | cons first rest ih =>
    rw [groupDependencies]
    cases hgroup : d.group? first with
    | none => simp [List.forall₂_cons_left_iff, hgroup]
    | some group =>
      have hmap : (groupDependencies label d rest).map (group ++ ·) = .ok dependencies ↔
          ∃ others, groupDependencies label d rest = .ok others ∧
            group ++ others = dependencies := by
        cases groupDependencies label d rest <;> simp [Except.map]
      dsimp only
      rw [hmap]
      constructor
      · rintro ⟨others, hothers, rfl⟩
        obtain ⟨groups, hgroups, rfl⟩ := ih.mp hothers
        exact ⟨group :: groups, .cons hgroup hgroups, rfl⟩
      · rintro ⟨groups, hgroups, rfl⟩
        obtain ⟨found, others, hfound, hothers, rfl⟩ := List.forall₂_cons_left_iff.mp hgroups
        obtain rfl : group = found := Option.some.inj (hgroup.symm.trans hfound)
        exact ⟨others.flatten, ih.mpr ⟨others, hothers, rfl⟩, rfl⟩

/-- Groups are refused for the first one that the project does not have. -/
theorem groupDependencies_eq_error_iff {extras : List String} :
    groupDependencies label d extras = .error e ↔
      ∃ before extra behind, extras = before ++ extra :: behind ∧
        (∀ x ∈ before, (d.group? x).isSome) ∧ d.group? extra = none ∧
        e = .unknownExtra label extra := by
  induction extras with
  | nil => simp [groupDependencies]
  | cons first rest ih =>
    rw [groupDependencies]
    cases hgroup : d.group? first with
    | none =>
      constructor
      · intro h
        exact ⟨[], first, rest, rfl, List.forall_mem_nil _, hgroup, (Except.error.inj h).symm⟩
      · rintro ⟨before, extra, behind, hextras, hbefore, -, rfl⟩
        cases before with
        | nil =>
          obtain rfl := (List.cons.inj hextras).1
          rfl
        | cons x before =>
          obtain rfl := (List.cons.inj hextras).1
          have := hbefore first List.mem_cons_self
          rw [hgroup] at this
          cases this
    | some group =>
      have hmap : (groupDependencies label d rest).map (group ++ ·) = .error e ↔
          groupDependencies label d rest = .error e := by
        cases groupDependencies label d rest <;> simp [Except.map]
      dsimp only
      rw [hmap, ih]
      constructor
      · rintro ⟨before, extra, behind, rfl, hbefore, h⟩
        exact ⟨first :: before, extra, behind, rfl,
          List.forall_mem_cons.mpr ⟨by rw [hgroup]; rfl, hbefore⟩, h⟩
      · rintro ⟨before, extra, behind, hextras, hbefore, hextra, he⟩
        cases before with
        | nil =>
          obtain rfl := (List.cons.inj hextras).1
          rw [hgroup] at hextra
          cases hextra
        | cons x before =>
          exact ⟨before, extra, behind, (List.cons.inj hextras).2,
            (List.forall_mem_cons.mp hbefore).2, hextra, he⟩

/-- Groups can be put together exactly when the project has all of them. -/
theorem exists_groupDependencies_iff {extras : List String} :
    (∃ dependencies, groupDependencies label d extras = .ok dependencies) ↔
      ∀ extra ∈ extras, ∃ group, d.group? extra = some group := by
  constructor
  · rintro ⟨dependencies, h⟩ extra hextra
    obtain ⟨groups, hgroups, -⟩ := groupDependencies_eq_ok_iff.mp h
    clear h
    induction hgroups with
    | nil => cases hextra
    | cons hfirst _ ih =>
      rcases List.mem_cons.mp hextra with rfl | hextra
      · exact ⟨_, hfirst⟩
      · exact ih hextra
  · intro h
    cases hresult : groupDependencies label d extras with
    | ok dependencies => exact ⟨dependencies, rfl⟩
    | error e =>
      obtain ⟨before, extra, behind, rfl, -, hnone, -⟩ := groupDependencies_eq_error_iff.mp hresult
      obtain ⟨group, hgroup⟩ := h extra (List.mem_append_right _ List.mem_cons_self)
      rw [hnone] at hgroup
      cases hgroup

/-- Dependencies are refused when the lock file cannot be read, or for an extra that the project
does not have. -/
theorem exists_eq_of_dependenciesOf {requirements : Option String}
    (h : dependenciesOf label d t ctx requirements = .error e) :
    (∃ path reason, requirements = some path ∧ e = .lockFile label path reason) ∨
      requirements = none ∧ groupDependencies label d t.extras = .error e := by
  cases requirements with
  | some path =>
    rw [dependenciesOf] at h
    split at h
    · cases h
    · exact .inl ⟨path, _, rfl, (Except.error.inj h).symm⟩
  | none =>
    refine .inr ⟨rfl, ?_⟩
    rw [dependenciesOf] at h
    cases hg : groupDependencies label d t.extras with
    | ok groups =>
      rw [hg] at h
      cases h
    | error e' =>
      rw [hg] at h
      exact congrArg Except.error (Except.error.inj h)

/-- A flaw is one of an index or of a file entry. -/
theorem exists_eq_of_targetFlaw? (h : targetFlaw? label t = some e) :
    (∃ url flaw, e = .invalidIndex label url flaw) ∨ (∃ url id, e = .invalidSecretId label url id) ∨
      ∃ field src flaw, e = .invalidFileSpec label field src flaw := by
  rw [targetFlaw?, Option.or_eq_some_iff] at h
  rcases h with h | ⟨-, h⟩
  · obtain ⟨i, -, hi⟩ := List.exists_of_findSome?_eq_some h
    rw [indexFlaw?] at hi
    split at hi
    · exact .inl ⟨_, _, (Option.some.inj hi).symm⟩
    · obtain ⟨id, -, rfl⟩ := Option.map_eq_some_iff.mp hi
      exact .inr (.inl ⟨_, _, rfl⟩)
  · obtain ⟨l, -, hl⟩ := List.exists_of_findSome?_eq_some h
    obtain ⟨f, -, hf⟩ := List.exists_of_findSome?_eq_some hl
    rw [fileFlaw?] at hf
    split at hf
    · exact .inr (.inr ⟨_, _, _, (Option.some.inj hf).symm⟩)
    · split at hf
      · exact .inr (.inr ⟨_, _, _, (Option.some.inj hf).symm⟩)
      · cases hf

end ContainerBuild.Config
