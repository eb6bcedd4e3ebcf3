import ContainerBuild.Proofs.Config.Checks
import ContainerBuild.Proofs.Config.Resolved

/-!
# The dependencies of a build

With a lock file, the dependencies are the first occurrences of its lines, and what the project
depends on has no part in the result. Without one they are the first occurrences of the
dependencies of the project and of the groups that the target asks for, in the order of asking, and
the first extra without a group is the error.
-/

namespace ContainerBuild

open Text (trim)

/-- Manifests that differ at most in the dependencies of the project and in its groups. -/
structure Manifest.AgreesBesideDependencies (m m' : Manifest) : Prop where
  targets : m.targets = m'.targets
  name : m.declaration.name = m'.declaration.name
  authors : m.declaration.authors = m'.declaration.authors
  requiresPython : m.declaration.requiresPython = m'.declaration.requiresPython

namespace Config

variable {m m' : Manifest} {requested name : Option String} {ctx : Context} {t : Target}
  {c : Config} {label extra path : String}

/-- The lines of a lock file that name a dependency: trimmed, not blank, and no comments. -/
def namingLines (lines : List String) : List String :=
  (lines.map trim).filter fun line ↦ line ≠ "" && line.toList.head? ≠ some '#'

private theorem isFirstOccurrences_lockedDependencies (lines : List String) :
    IsFirstOccurrences (namingLines lines) (lockedDependencies lines) := by
  have htexts : lines.filterMap Text.nonBlank? = (lines.map trim).filter (· ≠ "") := by
    rw [List.filter_map, ← List.filterMap_eq_filter, ← List.filterMap_eq_map,
      List.filterMap_filterMap]
    apply List.filterMap_congr
    intro line _
    by_cases hblank : trim line = ""
    · simp [Text.nonBlank?, Option.guard, hblank]
    · simp [Text.nonBlank?, Option.guard, hblank]
  rw [isFirstOccurrences_iff, lockedDependencies, htexts, List.filter_filter, namingLines]
  congr 2
  funext line
  rw [Bool.and_comm]

private theorem Admits.isFirstOccurrences_of_lock (h : c.Admits m t ctx)
    (hpath : c.requirements = some path) :
    ∃ lines, ctx.lines path = .ok lines ∧
      IsFirstOccurrences (namingLines lines) c.dependencies := by
  have hdependencies := h.dependencies
  rw [hpath, dependenciesOf] at hdependencies
  split at hdependencies
  · next lines hlines =>
    obtain hlocked := Except.ok.inj hdependencies
    exact ⟨lines, hlines, hlocked ▸ isFirstOccurrences_lockedDependencies lines⟩
  · cases hdependencies

private theorem Admits.isFirstOccurrences_of_groups (h : c.Admits m t ctx)
    (hnone : c.requirements = none) :
    ∃ groups,
      List.Forall₂ (fun extra group ↦ m.declaration.group? extra = some group) c.extras groups ∧
      IsFirstOccurrences ((m.declaration.dependencies ++ groups.flatten).map trim)
        c.dependencies := by
  have hdependencies := h.dependencies
  rw [hnone, dependenciesOf, ← h.extras] at hdependencies
  cases hgroups : groupDependencies c.label m.declaration c.extras with
  | error e =>
    rw [hgroups] at hdependencies
    cases hdependencies
  | ok others =>
    rw [hgroups] at hdependencies
    obtain ⟨groups, hfound, rfl⟩ := groupDependencies_eq_ok_iff.mp hgroups
    exact ⟨groups, hfound, isFirstOccurrences_iff.mpr (Except.ok.inj hdependencies).symm⟩

/-- With a lock file, the dependencies of the project have no part in the result. -/
theorem resolve_eq_of_lock (hagree : m.AgreesBesideDependencies m')
    (hselect : selectTarget m.targets requested = .ok (name, t)) (hlock : t.lockPath? = some path) :
    resolve m requested ctx = resolve m' requested ctx := by
  apply resolve_eq_of_checks hagree.name hagree.authors (by rw [hagree.targets])
  · intro name t _
    rw [hagree.requiresPython]
  · intro other t' requirements hselect' hrequirements
    rw [hselect] at hselect'
    obtain ⟨rfl, rfl⟩ := Prod.mk.inj (Except.ok.inj hselect')
    rw [(lockPathOf_eq_ok hrequirements).1, hlock]
    rfl

/-- Without a lock file and behind the checks before, an extra is unknown exactly when it is the
first one without a group. -/
theorem resolve_eq_unknownExtra_iff {flavor : Flavor} {version : String}
    (hselect : selectTarget m.targets requested = .ok (name, t))
    (hflavor : flavorOf (name.getD implicitTarget) t = .ok flavor) (hlock : t.lockPath? = none)
    (hversion : pythonVersionOf (name.getD implicitTarget) m.declaration.requiresPython t ctx =
      .ok version) :
    resolve m requested ctx = .error (.unknownExtra label extra) ↔
      label = name.getD implicitTarget ∧
        t.extras.find? (fun x ↦ (m.declaration.group? x).isNone) = some extra := by
  have hrequirements : lockPathOf (name.getD implicitTarget) t = .ok none := by
    simp only [lockPathOf, hlock]
  have hgroups : groupDependencies (name.getD implicitTarget) m.declaration t.extras =
      .error (.unknownExtra label extra) ↔ label = name.getD implicitTarget ∧
        t.extras.find? (fun x ↦ (m.declaration.group? x).isNone) = some extra := by
    rw [groupDependencies_eq_error_iff, List.find?_eq_some_iff_append]
    constructor
    · rintro ⟨before, first, behind, hextras, hbefore, hfirst, he⟩
      obtain ⟨rfl, rfl⟩ := ResolveError.unknownExtra.inj he
      exact ⟨rfl, by simp [hfirst], before, behind, hextras, by simpa using hbefore⟩
    · rintro ⟨rfl, hnone, before, behind, hextras, hbefore⟩
      exact ⟨before, extra, behind, hextras, by simpa using hbefore, by simpa using hnone, rfl⟩
  rw [resolve_eq_error_iff hselect, ← hgroups]
  constructor
  · intro h
    cases h with
    | flavor h =>
      rw [hflavor] at h
      cases h
    | lockPath hf h =>
      rw [hrequirements] at h
      cases h
    | pythonVersion hf hl h =>
      rw [hversion] at h
      cases h
    | dependencies hf hl hv h =>
      obtain ⟨path, reason, -, he⟩ | ⟨-, h⟩ := exists_eq_of_dependenciesOf h
      · cases he
      · exact h
    | flaw hf hl hv hd h =>
      obtain ⟨url, flaw, he⟩ | ⟨url, id, he⟩ | ⟨field, src, flaw, he⟩ :=
        exists_eq_of_targetFlaw? h <;> cases he
  · intro h
    refine .dependencies hflavor hrequirements hversion ?_
    rw [dependenciesOf, h]
    rfl

/-- What a resolved configuration depends on are the first occurrences of the lines of its lock
file that name something, whatever the project depends on, or else of what the project and the
groups of the extras name. Without a lock file and behind the checks before, resolving fails for an
unknown extra exactly when an extra has no group, and names the first one. -/
theorem dependencies_of_resolve (m : Manifest) (requested : Option String) (ctx : Context) :
    (∀ c, resolve m requested ctx = .ok c →
      (∀ path, c.requirements = some path →
        (∃ lines, ctx.lines path = .ok lines ∧
          IsFirstOccurrences (namingLines lines) c.dependencies) ∧
        ∀ m', m.AgreesBesideDependencies m' → resolve m' requested ctx = .ok c) ∧
      (c.requirements = none → ∃ groups,
        List.Forall₂ (fun extra group ↦ m.declaration.group? extra = some group) c.extras groups ∧
        IsFirstOccurrences ((m.declaration.dependencies ++ groups.flatten).map trim)
          c.dependencies)) ∧
    ∀ name t flavor version, selectTarget m.targets requested = .ok (name, t) →
      flavorOf (name.getD implicitTarget) t = .ok flavor → t.lockPath? = none →
      pythonVersionOf (name.getD implicitTarget) m.declaration.requiresPython t ctx = .ok version →
      ((∃ label extra, resolve m requested ctx = .error (.unknownExtra label extra)) ↔
        ∃ extra ∈ t.extras, m.declaration.group? extra = none) ∧
      ∀ label extra, resolve m requested ctx = .error (.unknownExtra label extra) ↔
        label = name.getD implicitTarget ∧
          t.extras.find? (fun x ↦ (m.declaration.group? x).isNone) = some extra := by
  constructor
  · intro c hc
    obtain ⟨t, hselect, hadmits⟩ := resolve_eq_ok_iff.mp hc
    refine ⟨fun path hpath ↦ ⟨hadmits.isFirstOccurrences_of_lock hpath, fun m' hagree ↦ ?_⟩,
      hadmits.isFirstOccurrences_of_groups⟩
    have hlock : t.lockPath? = some path :=
      (lockPathOf_eq_ok hadmits.requirements).1.symm.trans hpath
    rw [← resolve_eq_of_lock hagree hselect hlock, hc]
  · intro name t flavor version hselect hflavor hlock hversion
    have hexact (label extra : String) :=
      @resolve_eq_unknownExtra_iff m requested name ctx t label extra flavor version hselect hflavor
        hlock hversion
    refine ⟨?_, hexact⟩
    simp only [hexact, exists_and_left, exists_eq_left, ← Option.isSome_iff_exists,
      List.find?_isSome, Option.isNone_iff_eq_none]

/-- A lock file with comments, blank lines and repeated ones, read for two projects, and targets
whose groups overlap with the project and with each other, the last of them with unknown extras. -/
theorem dependencies_of_resolve_overlaps :
    let locked : Target := { requirements := some "lock.txt" }
    let api : Target := { extras := ["fast", "docs", "fast"] }
    let web : Target := { extras := ["docs", "cli", "gui"] }
    let targets : Dict Target := .ofList [("api", api), ("locked", locked), ("web", web)]
    let groups := [("docs", ["b", "sphinx "]), ("fast", ["uvloop", " a"])]
    let m : Manifest :=
      { project := ⟨"app", [], ["b ", "a", " b"], groups, none⟩, targets }
    let bare : Manifest := { project := { name := "app" }, targets }
    let lines := ["# pinned", "b==1", "", " a==2 # web", "b==1\t", " #"]
    let ctx : Context := ⟨.ok "", fun _ ↦ .ok lines⟩
    let c : Config :=
      { name := "app", target := some "locked", pythonVersion := "3.13"
        requirements := some "lock.txt", dependencies := ["b==1", "a==2 # web"] }
    let d : Config :=
      { name := "app", target := some "api", pythonVersion := "3.13"
        extras := ["fast", "docs", "fast"], dependencies := ["b", "a", "uvloop", "sphinx"] }
    resolve m (some "locked") ctx = .ok c ∧ c.requirements = some "lock.txt" ∧
      IsFirstOccurrences ["b==1", "a==2 # web", "b==1"] c.dependencies ∧
      m.AgreesBesideDependencies bare ∧ resolve bare (some "locked") ctx = .ok c ∧
      resolve m (some "api") ctx = .ok d ∧ d.requirements = none ∧
      IsFirstOccurrences ["b", "a", "b", "uvloop", "a", "b", "sphinx", "uvloop", "a"]
        d.dependencies ∧
      resolve m (some "web") ctx = .error (.unknownExtra "web" "cli") := by
  intro locked api web targets groups m bare lines ctx c d
  have hc : resolve m (some "locked") ctx = .ok c := by decide +kernel
  have hd : resolve m (some "api") ctx = .ok d := by decide +kernel
  have hweb : selectTarget m.targets (some "web") = .ok (some "web", web) := by decide +kernel
  have hversion : pythonVersionOf "web" m.declaration.requiresPython web ctx = .ok "3.13" := by
    decide +kernel
  have hagree : m.AgreesBesideDependencies bare := ⟨rfl, rfl, rfl, rfl⟩
  obtain ⟨⟨read, hread, hlocked⟩, hsame⟩ :=
    ((dependencies_of_resolve m (some "locked") ctx).1 c hc).1 "lock.txt" rfl
  obtain ⟨found, hfound, hgroups⟩ := ((dependencies_of_resolve m (some "api") ctx).1 d hd).2 rfl
  have hnaming : namingLines read = ["b==1", "a==2 # web", "b==1"] := by
    obtain rfl := Except.ok.inj hread
    decide
  have hdeclared : found = [["uvloop", " a"], ["b", "sphinx "], ["uvloop", " a"]] := by
    have hsome : d.extras.map m.declaration.group? = found.map some := by
      rw [← List.forall₂_eq_eq_eq, List.forall₂_map_right_iff, List.forall₂_map_left_iff]
      exact hfound
    apply List.map_injective_iff.mpr fun _ _ ↦ Option.some.inj
    exact hsome.symm
  refine ⟨hc, rfl, hnaming ▸ hlocked, hagree, hsame bare hagree, hd, rfl, ?_, ?_⟩
  · rw [hdeclared] at hgroups
    exact hgroups
  · exact (((dependencies_of_resolve m (some "web") ctx).2 _ _ .debian _ hweb rfl rfl hversion).2
      "web" "cli").mpr ⟨rfl, by decide⟩

end Config

end ContainerBuild
