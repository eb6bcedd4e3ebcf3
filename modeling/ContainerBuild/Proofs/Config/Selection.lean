import ContainerBuild.Proofs.Config.Checks
import ContainerBuild.Proofs.Config.Problems
import ContainerBuild.Proofs.Text.ByteOrder

/-!
# Selecting a target by its key

A request is trimmed before it is looked up. A key without blanks at its ends therefore selects its
own entry, and resolving then uses this entry and no other one. A key that is all blanks asks for no
target, and so selects its own entry only when it is the smallest key. Every other key with blanks
at its ends is missed by its own name, since only the trimmed name is looked up.
-/

namespace ContainerBuild

open Text (nonBlank? trim)

/-- The key whose bytes stand before those of all other keys. -/
structure Dict.IsLeast {α : Type} (d : Dict α) (key : String) : Prop where
  mem : key ∈ d.keys
  le : ∀ other ∈ d.keys, Text.utf8 key ≤ Text.utf8 other

/-- The failures of a selected target: all but that of reading the pinned version name it. -/
def ResolveError.Concerns (label : String) : ResolveError → Prop
  | .unknownTarget _ _ => False
  | .pinnedVersion _ => True
  | .unknownFlavor target _ => target = label
  | .exclusiveOptions target => target = label
  | .invalidLockPath target _ _ => target = label
  | .version target _ => target = label
  | .lockFile target _ _ => target = label
  | .unknownExtra target _ => target = label
  | .invalidIndex target _ _ => target = label
  | .invalidSecretId target _ _ => target = label
  | .invalidFileSpec target _ _ _ => target = label

/-- The manifest with a single target. -/
def Manifest.only (m : Manifest) (key : String) (t : Target) : Manifest :=
  { m with targets := .ofList [(key, t)] }

namespace Dict

variable {α : Type} {d : Dict α} {key : String} {value : α}

private theorem isLeast_iff_exists_entries (h : d.get? key = some value) :
    d.IsLeast key ↔ ∃ rest, d.entries = (key, value) :: rest := by
  constructor
  · intro hleast
    refine exists_entries_eq_of_forall_not_lt h fun other hother ↦ ?_
    exact String.not_lt.mpr (Text.utf8_le_iff.mp (hleast.le other hother))
  · rintro ⟨rest, he⟩
    have hmem : (key, value) ∈ d.entries := mem_entries_iff_get?.mpr h
    have hascending := d.ascending
    refine ⟨List.mem_map.mpr ⟨_, hmem, rfl⟩, fun other hother ↦ Text.utf8_le_iff.mpr ?_⟩
    rw [he] at hascending
    rw [keys, he, List.map_cons] at hother
    rcases List.mem_cons.mp hother with rfl | hrest
    · exact String.le_refl _
    · obtain ⟨p, hp, rfl⟩ := List.mem_map.mp hrest
      have hlt : key < p.1 := (List.pairwise_cons.mp hascending).1 p hp
      exact le_of_lt hlt

end Dict

namespace Config

variable {m : Manifest} {requested : Option String} {ctx : Context} {c : Config} {t : Target}
  {targets : Dict Target} {d : Declaration} {key label constraint : String} {e : ResolveError}

/-- Without a request, or with a blank one, the smallest key selects its entry. -/
theorem selectTarget_blank_iff (hkey : targets.get? key = some t)
    (hblank : requested.bind nonBlank? = none) :
    selectTarget targets requested = .ok (some key, t) ↔ targets.IsLeast key := by
  rw [Dict.isLeast_iff_exists_entries hkey]
  simp only [selectTarget, hblank]
  cases targets.entries with
  | nil => simp
  | cons first rest => simp [Prod.ext_iff]

private theorem selectTarget_self_iff (hkey : targets.get? key = some t) :
    selectTarget targets (some key) = .ok (some key, t) ↔
      trim key = key ∨ trim key = "" ∧ targets.IsLeast key := by
  by_cases htrim : trim key = key
  · exact iff_of_true (selectTarget_of_get? htrim hkey) (.inl htrim)
  · by_cases hblank : trim key = ""
    · have hnone : (some key).bind nonBlank? = none := by
        rw [Option.bind_some, nonBlank?, if_pos hblank]
      rw [selectTarget_blank_iff hkey hnone]
      exact ⟨fun hleast ↦ .inr ⟨hblank, hleast⟩, fun h ↦ (h.resolve_left htrim).2⟩
    · have hsome : (some key).bind nonBlank? = some (trim key) := by
        rw [Option.bind_some, Text.nonBlank?_eq_some_iff]
        exact ⟨hblank, rfl⟩
      -- What is looked up is the trimmed key, and an entry that is found has that key.
      refine iff_of_false ?_ fun h ↦ hblank (h.resolve_left htrim).1
      simp only [selectTarget, hsome]
      intro h
      split at h
      · obtain ⟨hname, -⟩ := Prod.mk.inj (Except.ok.inj h)
        exact htrim (Option.some.inj hname)
      · cases h

/-! ## What a selection leads to -/

/-- Selections of one entry lead to one result when the declarations are the same. -/
theorem resolve_congr {m' : Manifest} {requested' : Option String}
    (hdeclaration : m.declaration = m'.declaration)
    (hselect : selectTarget m.targets requested = selectTarget m'.targets requested') :
    resolve m requested ctx = resolve m' requested' ctx := by
  simp only [resolve, hdeclaration, hselect]

private theorem concerns_of_resolve {name : Option String}
    (hselect : selectTarget m.targets requested = .ok (name, t))
    (h : resolve m requested ctx = .error e) : e.Concerns (name.getD implicitTarget) := by
  cases (resolve_eq_error_iff hselect).mp h with
  | flavor h =>
    obtain ⟨flavor, rfl⟩ := exists_eq_of_flavorOf h
    rfl
  | lockPath hf h =>
    obtain rfl | ⟨path, flaw, rfl⟩ := exists_eq_of_lockPathOf h
    · rfl
    · rfl
  | pythonVersion hf hl h =>
    obtain ⟨reason, rfl⟩ | ⟨reason, rfl⟩ := exists_eq_of_pythonVersionOf h
    · trivial
    · rfl
  | dependencies hf hl hv h =>
    obtain ⟨path, reason, -, rfl⟩ | ⟨-, h⟩ := exists_eq_of_dependenciesOf h
    · rfl
    · obtain ⟨-, extra, -, -, -, -, rfl⟩ := groupDependencies_eq_error_iff.mp h
      rfl
  | flaw hf hl hv hd h =>
    obtain ⟨url, flaw, rfl⟩ | ⟨url, id, rfl⟩ | ⟨field, src, flaw, rfl⟩ :=
      exists_eq_of_targetFlaw? h
    · rfl
    · rfl
    · rfl

/-- Of a declared key: its own name selects its entry exactly when the key is trimmed, or is blank
and the smallest key; a blank request, or none, selects the smallest key; and whatever selects the
entry makes resolving use this entry alone, so that no target is unknown, a failure is one of this
target, and a configuration names the key. -/
theorem resolve_own_key (hkey : m.targets.get? key = some t) :
    (selectTarget m.targets (some key) = .ok (some key, t) ↔
      trim key = key ∨ trim key = "" ∧ m.targets.IsLeast key) ∧
    (∀ requested, requested.bind nonBlank? = none →
      (selectTarget m.targets requested = .ok (some key, t) ↔ m.targets.IsLeast key)) ∧
    ∀ requested, selectTarget m.targets requested = .ok (some key, t) → ∀ ctx,
      resolve m requested ctx = resolve (m.only key t) none ctx ∧
      (∀ e, resolve m requested ctx = .error e →
        e.Concerns key ∧ ∀ name keys, e ≠ .unknownTarget name keys) ∧
      ∀ c, resolve m requested ctx = .ok c → c.target = some key ∧ c.Admits m t ctx := by
  refine ⟨selectTarget_self_iff hkey, fun requested ↦ selectTarget_blank_iff hkey, ?_⟩
  intro requested hselect ctx
  refine ⟨resolve_congr rfl hselect, ?_, ?_⟩
  · intro e he
    have hconcerns : e.Concerns key := concerns_of_resolve hselect he
    refine ⟨hconcerns, ?_⟩
    rintro name keys rfl
    exact hconcerns
  · intro c hc
    obtain ⟨selected, hs, hadmits⟩ := resolve_eq_ok_iff.mp hc
    rw [hselect] at hs
    obtain ⟨hname, rfl⟩ := Prod.mk.inj (Except.ok.inj hs)
    exact ⟨hname.symm, hadmits⟩

/-- A blank key before two that differ by the blanks at their ends. -/
theorem resolve_own_key_blanks :
    let web : Target := { flavor := some "alpine" }
    let m : Manifest :=
      { project := { name := "app" }
        targets := .ofList [("web", web), (" web ", {}), ("\t", { pythonVersion := some "3.9" })] }
    let c : Config :=
      { name := "app", target := some "web", pythonVersion := "3.13", flavor := .alpine }
    m.targets.get? "web" = some web ∧
      selectTarget m.targets (some "web") = .ok (some "web", web) ∧
      ¬ m.targets.IsLeast "web" ∧
      resolve m (some "web") .none = .ok c ∧
      resolve m (some "web") .none = resolve (m.only "web" web) none .none ∧
      c.Admits m web .none := by
  intro web m c
  have hkey : m.targets.get? "web" = some web := by decide
  have hc : resolve m (some "web") .none = .ok c := by decide
  obtain ⟨hself, hblank, huse⟩ := resolve_own_key hkey
  have hselect := hself.mpr (.inl (by decide))
  obtain ⟨hsame, -, hadmits⟩ := huse _ hselect .none
  refine ⟨hkey, hselect, ?_, hc, hsame, (hadmits c hc).2⟩
  rw [← hblank none rfl]
  decide

/-- A key with a blank at each end is unknown by its own name, although it is the only key. -/
theorem resolve_padded_key :
    let m : Manifest := { project := { name := "a" }, targets := .ofList [(" t ", {})] }
    m.targets.get? " t " = some {} ∧
      resolve m (some " t ") .none = .error (.unknownTarget "t" [" t "]) := by
  decide

end Config

end ContainerBuild
