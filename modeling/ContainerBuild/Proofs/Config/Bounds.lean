import ContainerBuild.Config.Resolve
import ContainerBuild.Proofs.Version.Bounds

/-!
# Resolving within the bounds of the numbers

Numbers are raised at two places when a configuration is resolved: where the constraints of a
project in the format of Poetry are written as requirements, and where the version of the
interpreter is chosen. The guarded computations below stop at a number without room, and otherwise
go on as the plain ones do.
-/

namespace ContainerBuild

/-- No number that has to be raised for a manifest is the largest one: neither one at the front of
a range of a dependency nor one of the constraint on the interpreter. -/
structure Manifest.HasRoom (m : Manifest) : Prop where
  dependencies : ∀ poetry ∈ m.poetry, ∀ d ∈ poetry.dependencies, ∀ text ∈ d.2.constraint?,
    ∀ r ∈ Guarded.rangeReleases text.toList, r.HasRoom
  requiresPython : ∀ c, Constraint.parse m.declaration.requiresPython = .ok c → c.HasRoom

namespace Guarded

/-! ## Guarded computations -/

/-- The requirement text for a package. -/
def requirement (name : String) (d : PoetryDependency) : Except Fault String :=
  match d with
  | .detailed _ (some git) rev _ =>
    return d.subject name ++ PoetryDependency.repositoryRequirement git rev
  | d =>
    match d.constraint? with
    | some text => do return d.subject name ++ (← expand text)
    | none => return d.subject name

/-- The declaration of a project in the format of Poetry. -/
def poetryDeclaration (p : PoetryProject) : Except Fault Declaration := do
  let dependencies ← (p.dependencies.filter fun d ↦ d.1 ≠ "python").mapM fun d ↦
    requirement d.1 d.2
  return ⟨p.name, p.authors.map Author.parse, dependencies, [], p.requiresPython⟩

/-- The declaration of a manifest. -/
def declaration (m : Manifest) : Except Fault Declaration :=
  match m.poetry with
  | some poetry =>
    if m.project.name = "" then poetryDeclaration poetry else return .ofProject m.project
  | none => return .ofProject m.project

/-- The interpreter version of a build. -/
def pythonVersionOf (label constraint : String) (t : Target) (ctx : Context) :
    ExceptT ResolveError (Except Fault) String := do
  let explicit ← Config.explicitVersion t ctx
  match ← (choose constraint (some explicit) : Except Fault _) with
  | .ok version => return version
  | .error e => throw (.version label e)

/-- The configuration of a target of a manifest in a context. -/
def resolve (m : Manifest) (requested : Option String) (ctx : Context) :
    ExceptT ResolveError (Except Fault) Config := do
  let project ← (declaration m : Except Fault Declaration)
  let (name, target) ← Config.selectTarget m.targets requested
  let label := name.getD implicitTarget
  let flavor ← Config.flavorOf label target
  let requirements ← Config.lockPathOf label target
  let pythonVersion ← pythonVersionOf label project.requiresPython target ctx
  Config.complete project name target ctx flavor requirements pythonVersion

/-! ## Agreement with the plain computations -/

section

variable {α β ε : Type} {room : Prop} {f : α → ExceptT ε (Except Fault) β}

/-- What goes on behind an error or a result agrees when it does behind the result. -/
theorem Agrees.bindRun {x : ExceptT ε (Except Fault) α} {a : Except ε α} {g : α → Except ε β}
    (hx : Agrees room x.run a) (hf : ∀ v, a = .ok v → Agrees room (f v).run (g v)) :
    Agrees room (x >>= f).run (a >>= g) := by
  rw [ExceptT.run_bind]
  refine hx.bind ?_
  cases a with
  | ok v => exact hf v rfl
  | error e => exact .same _

/-- A step that raises no number agrees with itself. -/
theorem Agrees.bindPlain (a : Except ε α) {g : α → Except ε β}
    (hf : ∀ v, a = .ok v → Agrees room (f v).run (g v)) :
    Agrees room (monadLift a >>= f).run (a >>= g) :=
  Agrees.bindRun (.same a) hf

/-- What goes on behind a guarded step agrees when it does behind the plain result. -/
theorem Agrees.bindLift {x : Except Fault α} {a : α} {b : Except ε β} (hx : Agrees room x a)
    (hf : Agrees room (f a).run b) : Agrees room (monadLift x >>= f).run b := by
  cases hx with
  | same => exact hf
  | overflow _ hnone => exact .overflow b hnone

end

variable {label : String} {m : Manifest} {t : Target}

/-- The requirement for a package needs room for the ranges of its constraint. -/
theorem agrees_requirement (name : String) (d : PoetryDependency) :
    Agrees (∀ text ∈ d.constraint?, ∀ r ∈ rangeReleases text.toList, r.HasRoom)
      (requirement name d) (d.requirement name) := by
  unfold requirement
  split
  · exact .same _
  · next hplain =>
    rw [PoetryDependency.requirement.eq_2 name d hplain]
    cases hd : d.constraint? with
    | none =>
      rw [Option.map_none, Option.getD_none, String.append_empty]
      exact .same _
    | some text =>
      have hexpand := (agrees_expand text).mono fun
        hroom : ∀ asked ∈ some text, ∀ r ∈ rangeReleases asked.toList, r.HasRoom ↦ hroom text rfl
      exact hexpand.bind (.same _)

/-- The declaration of a manifest needs its room. -/
theorem agrees_declaration (m : Manifest) :
    Agrees m.HasRoom (declaration m) m.declaration := by
  unfold declaration Manifest.declaration
  cases hpoetry : m.poetry with
  | none => exact .same _
  | some poetry =>
    by_cases hname : m.project.name = ""
    · dsimp only
      rw [if_pos hname, if_pos hname]
      refine (Agrees.mapM fun d hd ↦ ?_).bind (.same _)
      apply (agrees_requirement d.1 d.2).mono
      intro hroom
      exact hroom.dependencies poetry hpoetry d (List.mem_of_mem_filter hd)
    · dsimp only
      rw [if_neg hname, if_neg hname]
      exact .same _

private theorem agrees_choose_any (constraint : String) (explicit : Option String) :
    Agrees (∀ c, Constraint.parse constraint = .ok c → c.HasRoom) (choose constraint explicit)
      (Version.choose constraint explicit) := by
  cases hc : Constraint.parse constraint with
  | ok c =>
    apply (agrees_choose hc explicit).mono
    intro hroom
    exact hroom c rfl
  | error e =>
    have hguarded : choose constraint explicit = .ok (.error e) := by
      rw [choose, hc]
      rfl
    have hplain : Version.choose constraint explicit = .error e := by
      unfold Version.choose
      rw [hc]
    rw [hguarded, hplain]
    exact .same _

/-- The version of the interpreter needs room for the constraint. -/
theorem agrees_pythonVersionOf (label constraint : String) (t : Target) (ctx : Context) :
    Agrees (∀ c, Constraint.parse constraint = .ok c → c.HasRoom)
      (pythonVersionOf label constraint t ctx).run
      (Config.pythonVersionOf label constraint t ctx) := by
  have hplain : Config.pythonVersionOf label constraint t ctx =
      Config.explicitVersion t ctx >>= fun explicit ↦
        match Version.choose constraint (some explicit) with
        | .ok version => .ok version
        | .error e => .error (.version label e) := by
    unfold Config.pythonVersionOf
    cases Config.explicitVersion t ctx <;> rfl
  rw [hplain]
  refine Agrees.bindPlain (Config.explicitVersion t ctx) fun explicit _ ↦ ?_
  refine (agrees_choose_any constraint (some explicit)).bindLift ?_
  cases Version.choose constraint (some explicit) with
  | ok version => exact .same _
  | error e => exact .same _

/-- A configuration is resolved when the manifest has room. -/
theorem agrees_resolve (m : Manifest) (requested : Option String) (ctx : Context) :
    Agrees m.HasRoom (resolve m requested ctx).run (Config.resolve m requested ctx) := by
  refine (agrees_declaration m).bindLift ?_
  refine Agrees.bindPlain (Config.selectTarget m.targets requested) fun selected _ ↦ ?_
  obtain ⟨name, target⟩ := selected
  refine Agrees.bindPlain (Config.flavorOf _ target) fun flavor _ ↦ ?_
  refine Agrees.bindPlain (Config.lockPathOf _ target) fun requirements _ ↦ ?_
  have hversion := (agrees_pythonVersionOf (name.getD implicitTarget)
    m.declaration.requiresPython target ctx).mono Manifest.HasRoom.requiresPython
  exact hversion.bindRun fun pythonVersion _ ↦ .same _

end Guarded

end ContainerBuild
