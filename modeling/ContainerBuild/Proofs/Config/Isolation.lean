import ContainerBuild.Proofs.Config.Resolved

/-!
# What resolving reads of a context

Of its context, resolving reads the pinned version and the lines of one lock file, and the path of
that file has been checked before. So no file outside of the context has a part in the result: two
contexts that agree on the pinned version and on every path without a flaw give the same
configuration, or the same error.
-/

namespace ContainerBuild.Config

variable {m : Manifest} {requested : Option String} {ctx ctx' : Context} {t : Target}
  {d : Declaration} {label : String}

private theorem pythonVersionOf_congr (hpinned : ctx.pinned = ctx'.pinned)
    (label constraint : String) (t : Target) :
    pythonVersionOf label constraint t ctx = pythonVersionOf label constraint t ctx' := by
  simp only [pythonVersionOf, explicitVersion, hpinned]

private theorem dependenciesOf_congr (hlines : ∀ path, LockPath.flaw? path = none →
      ctx.lines path = ctx'.lines path) {requirements : Option String}
    (hlock : lockPathOf label t = .ok requirements) :
    dependenciesOf label d t ctx requirements = dependenciesOf label d t ctx' requirements := by
  cases requirements with
  | none => rfl
  | some path =>
    have hflaw : LockPath.flaw? path = none := ((lockPathOf_eq_ok hlock).2 path rfl).2
    simp only [dependenciesOf, hlines path hflaw]

/-- Contexts that pin the same version and agree on every path without a flaw give the same
configuration or the same error, and such a path stays inside of the directory of the context,
whatever that is. -/
theorem resolve_eq_of_agree (hpinned : ctx.pinned = ctx'.pinned)
    (hlines : ∀ path, LockPath.flaw? path = none → ctx.lines path = ctx'.lines path) :
    resolve m requested ctx = resolve m requested ctx' ∧
      ∀ path, LockPath.flaw? path = none → LockPath.IsInside path := by
  refine ⟨?_, fun path ↦ LockPath.isInside_of_flaw?⟩
  simp only [resolve, complete, bind, Except.bind]
  cases selectTarget m.targets requested with
  | error e => rfl
  | ok selected =>
    obtain ⟨name, t⟩ := selected
    dsimp only
    cases flavorOf (name.getD implicitTarget) t with
    | error e => rfl
    | ok flavor =>
      cases hlock : lockPathOf (name.getD implicitTarget) t with
      | error e => rfl
      | ok requirements =>
        dsimp only
        rw [pythonVersionOf_congr hpinned, dependenciesOf_congr hlines hlock]

/-- A lock file in a context, beside one where every path with a flaw leads to a file. -/
theorem resolve_eq_of_agree_outside :
    let m : Manifest :=
      { project := { name := "app" }
        targets := .ofList [("api", { requirements := some " ./deps//prod.lock " })] }
    let read : String → Except String (List String) := fun path ↦
      if path = "./deps//prod.lock" then .ok ["flask==3.0"] else .error "missing"
    let ctx : Context := ⟨.ok "3.12\n", read⟩
    let ctx' : Context := ⟨.ok "3.12\n", fun path ↦
      if LockPath.flaw? path = none then read path else .ok ["outside"]⟩
    let c : Config :=
      { name := "app"
        target := some "api"
        pythonVersion := "3.12"
        dependencies := ["flask==3.0"]
        requirements := some "./deps//prod.lock" }
    (ctx.lines "../prod.lock" ≠ ctx'.lines "../prod.lock" ∧ ctx.pinned = ctx'.pinned ∧
      ∀ path, LockPath.flaw? path = none → ctx.lines path = ctx'.lines path) ∧
      resolve m none ctx = .ok c ∧ resolve m none ctx = resolve m none ctx' ∧
      LockPath.IsInside "./deps//prod.lock" := by
  intro m read ctx ctx' c
  have hpinned : ctx.pinned = ctx'.pinned := rfl
  have hlines : ∀ path, LockPath.flaw? path = none → ctx.lines path = ctx'.lines path :=
    fun path hpath ↦ (if_pos hpath).symm
  have hsame := @resolve_eq_of_agree m none ctx ctx' hpinned hlines
  exact ⟨⟨by decide, hpinned, hlines⟩, by decide, hsame.1,
    hsame.2 _ (by decide)⟩

end ContainerBuild.Config
