import ContainerBuild.Config.Resolve
import ContainerBuild.Proofs.LockPath.Inside
import ContainerBuild.Proofs.Text.Decimal
import ContainerBuild.Proofs.Transport.Packages
import ContainerBuild.Proofs.Version.Choice

/-!
# What is known of a resolved configuration

Resolving is a chain of checks, and a configuration that comes out of it has passed every one of
them. `Config.Admits` lists the checks together with what each field is taken from, and
`resolve_eq_ok_iff` says that nothing else is asked for. From it follow the facts that the
compiler of scripts relies on, which `Config.IsConsistent` lists.
-/

namespace ContainerBuild

open Text (nonBlank? trim)

/-- All that resolving a target checks, and where the fields of the configuration come from. -/
structure Config.Admits (m : Manifest) (t : Target) (ctx : Context) (c : Config) : Prop where
  name : c.name = m.declaration.name
  authors : c.authors = m.declaration.authors
  flavor : Config.flavorOf c.label t = .ok c.flavor
  requirements : Config.lockPathOf c.label t = .ok c.requirements
  pythonVersion :
    Config.pythonVersionOf c.label m.declaration.requiresPython t ctx = .ok c.pythonVersion
  dependencies :
    Config.dependenciesOf c.label m.declaration t ctx c.requirements = .ok c.dependencies
  flawless : Config.targetFlaw? c.label t = none
  transport : c.transport = Transport.scan c.dependencies c.indices
  buildDeps : c.buildDeps = Transport.extend t.buildDeps c.transport
  extras : c.extras = t.extras
  systemDeps : c.systemDeps = t.systemDeps
  env : c.env = t.env
  labels : c.labels = t.labels
  indices : c.indices = t.indices
  entrypoint : c.entrypoint = t.entrypoint
  command : c.command = t.command
  copyFiles : c.copyFiles = t.copyFiles
  addFiles : c.addFiles = t.addFiles
  copyFilesBeforeBuild : c.copyFilesBeforeBuild = t.copyFilesBeforeBuild
  addFilesBeforeBuild : c.addFilesBeforeBuild = t.addFilesBeforeBuild

/-- What the compiler of scripts relies on: options that exclude each other do not meet, the
version suits the constraint, every dependency is trimmed and stands once, the packages of the
builder are those that are asked for and those that the transport needs, and the indices can be
written. -/
structure Config.IsConsistent (constraint : String) (buildDeps : List String) (c : Config) :
    Prop where
  exclusive : c.requirements = none ∨ c.extras = []
  version : ∃ v known, Version.parse c.pythonVersion = .ok v ∧
    Constraint.parse constraint = .ok known ∧ known.allows v = true
  nodup_dependencies : c.dependencies.Nodup
  trimmed : ∀ dependency ∈ c.dependencies, trim dependency = dependency
  transport : c.transport = Transport.scan c.dependencies c.indices
  git_of_ssh : c.transport.ssh = true → c.transport.git = true
  nodup_buildDeps : c.buildDeps.Nodup
  mem_buildDeps : ∀ package, package ∈ c.buildDeps ↔ package ∈ buildDeps ∨
    (c.transport.ssh = true ∧ package = "openssh-client") ∨
    (c.transport.git = true ∧ package = "git") ∨
    ((∃ i ∈ c.indices, ∃ id, i.Names id) ∧ package = "jq")
  secrets : ∀ i ∈ c.indices, ∀ id, i.Names id →
    ∀ char ∈ id.toList, char.isAlphanum = true ∨ char = '_' ∨ char = '.' ∨ char = '-'
  urls : ∀ i ∈ c.indices, ∃ u, Url.parse i.url = .ok u

namespace Config

variable {m : Manifest} {requested : Option String} {ctx : Context} {c : Config} {t : Target}
  {label : String}

/-- Resolving leads to a configuration exactly when it admits the selected target. -/
theorem resolve_eq_ok_iff :
    resolve m requested ctx = .ok c ↔
      ∃ t, selectTarget m.targets requested = .ok (c.target, t) ∧ c.Admits m t ctx := by
  constructor
  · intro h
    simp only [resolve, complete, bind, Except.bind] at h
    cases hs : selectTarget m.targets requested with
    | error e => simp only [hs, reduceCtorEq] at h
    | ok selected =>
      obtain ⟨name, t⟩ := selected
      simp only [hs] at h
      cases hf : flavorOf (name.getD implicitTarget) t with
      | error e => simp only [hf, reduceCtorEq] at h
      | ok flavor =>
        cases hl : lockPathOf (name.getD implicitTarget) t with
        | error e => simp only [hf, hl, reduceCtorEq] at h
        | ok requirements =>
          simp only [hf, hl] at h
          split at h
          · cases h
          · next version hv =>
            split at h
            · cases h
            · next dependencies hd =>
              split at h
              · cases h
              · next hflaw =>
                cases h
                exact ⟨t, rfl, ⟨rfl, rfl, hf, hl, hv, hd, hflaw, rfl, rfl, rfl, rfl, rfl, rfl,
                  rfl, rfl, rfl, rfl, rfl, rfl, rfl⟩⟩
  · rintro ⟨t, hs, h⟩
    cases c
    obtain ⟨hname, hauthors, hf, hl, hv, hd, hflaw, htransport, hbuild, hextras, hsystem, henv,
      hlabels, hindices, hentry, hcommand, hcopy, hadd, hcopyBefore, haddBefore⟩ := h
    dsimp only [Config.label] at *
    subst hname hauthors hbuild htransport hextras hsystem henv hlabels hindices hentry hcommand
      hcopy hadd hcopyBefore haddBefore
    simp only [resolve, complete, bind, Except.bind, hs, hf, hl, hv, hd, hflaw]

/-! ## Check by check -/

/-- The path of a lock file is the one that the target gives; it lies inside the context, and
there are no extras beside it. -/
theorem lockPathOf_eq_ok {requirements : Option String}
    (h : lockPathOf label t = .ok requirements) :
    requirements = t.lockPath? ∧
      ∀ path, requirements = some path → t.extras = [] ∧ LockPath.flaw? path = none := by
  simp only [lockPathOf] at h
  cases hl : t.lockPath? with
  | none =>
    simp only [hl] at h
    cases h
    exact ⟨rfl, fun path hp ↦ by cases hp⟩
  | some path =>
    simp only [hl] at h
    by_cases hx : t.extras = []
    · simp only [hx, List.isEmpty_nil, Bool.not_true, Bool.false_eq_true, ite_false] at h
      split at h
      · cases h
      · next hflaw =>
        cases h
        refine ⟨rfl, fun other hp ↦ ?_⟩
        obtain rfl : path = other := Option.some.inj hp
        exact ⟨hx, hflaw⟩
    · have he : (!t.extras.isEmpty) = true := by simpa using hx
      rw [if_pos he] at h
      cases h

/-- A version resolves to one that was asked for, or to a known one. -/
theorem exists_explicitVersion_of_pythonVersionOf {constraint version : String}
    (h : pythonVersionOf label constraint t ctx = .ok version) :
    ∃ text, explicitVersion t ctx = .ok text ∧
      Version.choose constraint (some text) = .ok version := by
  rw [pythonVersionOf] at h
  split at h
  · cases h
  · next text htext =>
    split at h
    · next chosen hchosen =>
      obtain rfl : chosen = version := Except.ok.inj h
      exact ⟨text, htext, hchosen⟩
    · cases h

/-- The version is a line that reads as a version that the constraint allows. -/
theorem pythonVersionOf_eq_ok {constraint version : String}
    (h : pythonVersionOf label constraint t ctx = .ok version) :
    Text.firstLine version = version ∧ ∃ known v, Constraint.parse constraint = .ok known ∧
      Version.parse version = .ok v ∧ known.allows v = true := by
  obtain ⟨text, -, hchosen⟩ := exists_explicitVersion_of_pythonVersionOf h
  exact Version.choose_eq_ok hchosen

/-- The dependencies are the first occurrences in a list of trimmed texts. -/
theorem dependenciesOf_eq_ok {d : Declaration} {lockPath : Option String}
    {dependencies : List String} (h : dependenciesOf label d t ctx lockPath = .ok dependencies) :
    ∃ texts, dependencies = List.eraseDups texts ∧ ∀ text ∈ texts, trim text = text := by
  simp only [dependenciesOf] at h
  split at h
  · split at h
    · next lines _ =>
      obtain rfl : lockedDependencies lines = dependencies := Except.ok.inj h
      refine ⟨_, rfl, fun text hmem ↦ ?_⟩
      obtain ⟨line, -, hline⟩ := List.mem_filterMap.mp (List.mem_filter.mp hmem).1
      rw [(Text.nonBlank?_eq_some_iff.mp hline).2, Text.trim_trim]
    · cases h
  · cases hg : groupDependencies label d t.extras with
    | error e =>
      rw [hg] at h
      cases h
    | ok groups =>
      rw [hg] at h
      obtain rfl := Except.ok.inj h
      refine ⟨_, rfl, fun text hmem ↦ ?_⟩
      obtain ⟨dependency, -, rfl⟩ := List.mem_map.mp hmem
      exact Text.trim_trim dependency

/-- An index has no flaw exactly when its URL can be read and its secrets have proper names. -/
theorem indexFlaw?_eq_none_iff {i : PackageIndex} :
    indexFlaw? label i = none ↔
      (∃ u, Url.parse i.url = .ok u) ∧ ∀ id ∈ i.secretIds, isSecretId id = true := by
  simp only [indexFlaw?]
  cases Url.parse i.url with
  | error e => simp
  | ok u => simp

private theorem isSecretIdChar_iff {char : Char} :
    isSecretIdChar char = true ↔
      char.isAlphanum = true ∨ char = '_' ∨ char = '.' ∨ char = '-' := by
  simp only [isSecretIdChar, Text.isAlphanum_iff, Bool.or_eq_true, Bool.and_eq_true,
    decide_eq_true_eq]
  tauto

private theorem of_targetFlaw?_eq_none (h : targetFlaw? label t = none) {i : PackageIndex}
    (hi : i ∈ t.indices) :
    (∃ u, Url.parse i.url = .ok u) ∧ ∀ id ∈ i.secretIds, isSecretId id = true := by
  rw [targetFlaw?, Option.or_eq_none_iff, List.findSome?_eq_none_iff] at h
  exact indexFlaw?_eq_none_iff.mp (h.1 i hi)

/-- A character of the name of a secret is no blank. -/
theorem isBlank_of_isSecretIdChar {char : Char} (h : isSecretIdChar char = true) :
    Text.isBlank char = false := by
  simp only [isSecretIdChar, Bool.or_eq_true, Bool.and_eq_true, decide_eq_true_eq, Char.le_def,
    UInt32.le_iff_toNat_le] at h
  rcases h with ((((h | h) | h) | rfl) | rfl) | rfl
  · change 97 ≤ char.toNat ∧ char.toNat ≤ 122 at h
    exact Text.isBlank_of_visible (by omega) (by omega)
  · change 65 ≤ char.toNat ∧ char.toNat ≤ 90 at h
    exact Text.isBlank_of_visible (by omega) (by omega)
  · exact Text.isBlank_of_isDigit h
  all_goals rfl

private theorem isBlank_of_flaw?_eq_none {path : String} (h : LockPath.flaw? path = none) :
    ∀ char ∈ path.toList, Text.isBlank char = false := by
  intro char hchar
  obtain ⟨-, -, -, hblank⟩ := (LockPath.isInside_of_flaw? h).plain char hchar
  exact hblank

/-! ## All checks together -/

/-- The lock file of a resolved configuration has no blank in its path. -/
theorem Admits.isBlank_of_mem_requirements (h : c.Admits m t ctx) {path : String}
    (hpath : c.requirements = some path) : ∀ char ∈ path.toList, Text.isBlank char = false :=
  isBlank_of_flaw?_eq_none ((lockPathOf_eq_ok h.requirements).2 path hpath).2

/-- The indices of a resolved configuration can be read, and their secrets have proper names. -/
theorem Admits.indices_wellFormed (h : c.Admits m t ctx) {i : PackageIndex}
    (hi : i ∈ c.indices) :
    (∃ u, Url.parse i.url = .ok u) ∧ ∀ id ∈ i.secretIds, isSecretId id = true := by
  rw [h.indices] at hi
  exact of_targetFlaw?_eq_none h.flawless hi

/-- The secrets of a resolved configuration are named by letters, digits and three signs. -/
theorem Admits.isSecretIdChar_of_mem_secretIds (h : c.Admits m t ctx) {i : PackageIndex}
    (hi : i ∈ c.indices) {id : String} (hid : id ∈ i.secretIds) :
    ∀ char ∈ id.toList, isSecretIdChar char = true := by
  have := (h.indices_wellFormed hi).2 id hid
  simp only [isSecretId, Bool.and_eq_true, List.all_eq_true] at this
  exact this.2

/-- A configuration that admits a target is consistent. -/
theorem Admits.isConsistent (h : c.Admits m t ctx) :
    c.IsConsistent m.declaration.requiresPython t.buildDeps := by
  obtain ⟨-, known, v, hknown, hv, hallows⟩ := pythonVersionOf_eq_ok h.pythonVersion
  obtain ⟨texts, htexts, htrim⟩ := dependenciesOf_eq_ok h.dependencies
  refine
    { exclusive := ?_
      version := ⟨v, known, hv, hknown, hallows⟩
      nodup_dependencies := htexts ▸ nodup_eraseDups texts
      trimmed := ?_
      transport := h.transport
      git_of_ssh := ?_
      nodup_buildDeps := h.buildDeps ▸ Transport.nodup_extend _ _
      mem_buildDeps := ?_
      secrets := ?_
      urls := fun i hi ↦ (h.indices_wellFormed hi).1 }
  · cases hr : c.requirements with
    | none => exact .inl rfl
    | some path =>
      have hx := (lockPathOf_eq_ok h.requirements).2 path hr
      exact .inr (h.extras.trans hx.1)
  · intro dependency hmem
    rw [htexts, List.mem_eraseDups] at hmem
    exact htrim dependency hmem
  · rw [h.transport]
    exact Transport.git_of_ssh_scan
  · intro package
    rw [h.buildDeps, Transport.mem_extend, Transport.mem_packages,
      ← @Transport.secrets_scan_iff c.dependencies, ← h.transport]
  · intro i hi id hid char hchar
    exact isSecretIdChar_iff.mp
      (h.isSecretIdChar_of_mem_secretIds hi (PackageIndex.mem_secretIds.mpr hid) char hchar)

/-- Whatever is resolved is consistent with the constraint of the project and with the packages
that the selected target asks for. -/
theorem isConsistent_of_resolve (h : resolve m requested ctx = .ok c) :
    ∃ t, selectTarget m.targets requested = .ok (c.target, t) ∧
      c.IsConsistent m.declaration.requiresPython t.buildDeps := by
  obtain ⟨t, hs, ht⟩ := resolve_eq_ok_iff.mp h
  exact ⟨t, hs, ht.isConsistent⟩

/-- A target with a repository behind a secure shell, an index with a secret, and a version that
the context pins. -/
theorem isConsistent_of_resolve_repository :
    let i : PackageIndex :=
      ⟨"https://pypi.org/simple", none, some "user.name", some "x", none, true⟩
    let m : Manifest :=
      { project :=
          { name := "app"
            dependencies := [" lib @ git+ssh://git@example.com/lib ", "flask", "flask "]
            requiresPython := some ">=3.8,<3.12" }
        targets := .ofList [("api", { buildDeps := ["gcc", "git"], indices := [i] })] }
    let ctx : Context := ⟨.ok "3.10.4\n3.9\n", fun _ ↦ .ok []⟩
    let c : Config :=
      { name := "app"
        target := some "api"
        pythonVersion := "3.10.4"
        dependencies := ["lib @ git+ssh://git@example.com/lib", "flask"]
        buildDeps := ["gcc", "git", "openssh-client", "jq"]
        indices := [i]
        transport := ⟨true, true, true⟩ }
    resolve m none ctx = .ok c ∧ ∃ t, selectTarget m.targets none = .ok (c.target, t) ∧
      c.IsConsistent m.declaration.requiresPython t.buildDeps := by
  intro i m ctx c
  have h : resolve m none ctx = .ok c := by decide +kernel
  exact ⟨h, isConsistent_of_resolve h⟩

end Config

end ContainerBuild
