import ContainerBuild.Proofs.Template.Literal
import ContainerBuild.Script.Compile
import Mathlib.Data.List.Forall2

/-!
# The layout of a script

A script is compiled when its parts are: the options of the indices and the values of templates.
Around these parts the instructions of each stage are fixed, and `compile_eq_ok_iff` says so.
-/

namespace ContainerBuild.Script

variable {c : Config} {params : Dict String} {label : String}

/-- The instructions that build the project, which are the last ones of the builder. -/
def projectSteps (flavor : Flavor) : List Step :=
  [(.copy, ". " ++ projectDir),
   (.run, cacheMount ++ " python -m pip install --user --no-deps " ++ projectDir),
   (.run, Packages.stripToolsInstall flavor ++ " && " ++ cleanup)]

/-- The instructions that take over what was built, for a user of its own. -/
def userSteps (flavor : Flavor) : List Step :=
  [(.run, Packages.createUser flavor),
   (.user, owner),
   (.copy, "--from=builder --chown=" ++ owner ++ " /root/.local " ++ Packages.userHome ++
     "/.local"),
   (.env, "PATH=$PATH:" ++ Packages.userHome ++ "/.local/bin")]

/-- The instructions of the builder around those that install the dependencies. -/
def builderLayout (c : Config) (install : List Step) : List Step :=
  [(.from, baseImage c ++ " AS builder")] ++
    (Packages.buildInstall c.flavor c.buildDeps).toList.map (.run, ·) ++
    (builderEnv.merge c.env).entries.map (fun (key, value) ↦ (.env, assignment key value)) ++
    fileSteps c.copyFilesBeforeBuild c.addFilesBeforeBuild ++
    install ++ projectSteps c.flavor

/-- The instructions of the runtime stage around those that are written from templates. -/
def runtimeLayout (c : Config) (env labels : List Step) : List Step :=
  [(.from, baseImage c)] ++
    (Packages.runtimeInstall c.flavor c.systemDeps).toList.map (.run, ·) ++
    userSteps c.flavor ++ fileSteps c.copyFiles c.addFiles ++
    execStep .entrypoint c.entrypoint ++ execStep .cmd c.command ++
    env ++ labels ++ authorSteps c

/-- The instructions of the parts of a script, stage by stage. -/
def layout (c : Config) (install env labels : List Step) : Script :=
  inStage .builder (builderLayout c install) ++ inStage .runtime (runtimeLayout c env labels)

/-- The templates of the environment, written with parameters. -/
def envSteps (c : Config) (params : Dict String) : Except CompileError (List Step) :=
  assignments c.label .env .env params c.env.entries

/-- The templates of the labels, written with parameters. -/
def labelSteps (c : Config) (params : Dict String) : Except CompileError (List Step) :=
  assignments c.label .label .label params (defaultLabels.merge c.labels).entries

/-- The labels of every image are templates that stand for themselves. -/
theorem expand_of_mem_defaultLabels {entry : String × String} (h : entry ∈ defaultLabels.entries)
    (params : Dict String) : Template.expand entry.2 params = .ok entry.2 := by
  have hliteral : ∀ entry ∈ defaultLabels.entries,
      Template.isLiteral entry.2.toList = true := by decide
  exact Template.expand_of_literal (hliteral entry h) params

/-- A script is compiled exactly when its parts are, and then it is their layout. -/
theorem compile_eq_ok_iff {script : Script} :
    compile c params = .ok script ↔
      ∃ install env labels, installDependencies c = .ok install ∧ envSteps c params = .ok env ∧
        labelSteps c params = .ok labels ∧ script = layout c install env labels := by
  simp only [compile, compileStage, builderSteps, runtimeSteps, envSteps, labelSteps, bind,
    Except.bind, pure, Except.pure]
  cases installDependencies c with
  | error e => simp [Except.map]
  | ok install =>
    cases assignments c.label .env .env params c.env.entries with
    | error e => simp [Except.map]
    | ok env =>
      cases assignments c.label .label .label params (defaultLabels.merge c.labels).entries with
      | error e => simp [Except.map]
      | ok labels =>
        simp only [Except.map, Except.ok.injEq]
        constructor
        · rintro rfl
          exact ⟨install, env, labels, rfl, rfl, rfl, rfl⟩
        · rintro ⟨install, env, labels, rfl, rfl, rfl, rfl⟩
          rfl

/-- The runtime stage is compiled when its templates are written. -/
theorem compileStage_runtime_eq_ok_iff {script : Script} :
    compileStage c params .runtime = .ok script ↔
      ∃ env labels, envSteps c params = .ok env ∧ labelSteps c params = .ok labels ∧
        script = inStage .runtime (runtimeLayout c env labels) := by
  simp only [compileStage, runtimeSteps, envSteps, labelSteps, bind, Except.bind, pure, Except.pure]
  cases assignments c.label .env .env params c.env.entries with
  | error e => simp [Except.map]
  | ok env =>
    cases assignments c.label .label .label params (defaultLabels.merge c.labels).entries with
    | error e => simp [Except.map]
    | ok labels =>
      simp only [Except.map, Except.ok.injEq]
      constructor
      · rintro rfl
        exact ⟨env, labels, rfl, rfl, rfl⟩
      · rintro ⟨env, labels, rfl, rfl, rfl⟩
        rfl

/-- What does not fail gives something. -/
theorem exists_eq_ok_of_isSome {ε α : Type} {x : Except ε α} (h : x.toOption.isSome = true) :
    ∃ a, x = .ok a := by
  cases x with
  | error e => cases h
  | ok a => exact ⟨a, rfl⟩

/-- The instructions of the stages of a layout are told apart. -/
theorem ofStage_inStage (builder runtime : List Step) :
    (inStage .builder builder ++ inStage .runtime runtime).ofStage .builder =
        inStage .builder builder ∧
      (inStage .builder builder ++ inStage .runtime runtime).ofStage .runtime =
        inStage .runtime runtime := by
  simp [ofStage, inStage, List.filter_append, List.filter_map, Function.comp_def]

/-- The instructions of the builder in front of the installation of dependencies. -/
def builderFront (c : Config) : List Step :=
  [(.from, baseImage c ++ " AS builder")] ++
    (Packages.buildInstall c.flavor c.buildDeps).toList.map (.run, ·) ++
    (builderEnv.merge c.env).entries.map (fun (key, value) ↦ (.env, assignment key value)) ++
    fileSteps c.copyFilesBeforeBuild c.addFilesBeforeBuild

/-- The instructions of the runtime stage in front of those that are written from templates. -/
def runtimeFront (c : Config) : List Step :=
  [(.from, baseImage c)] ++
    (Packages.runtimeInstall c.flavor c.systemDeps).toList.map (.run, ·) ++
    userSteps c.flavor ++ fileSteps c.copyFiles c.addFiles ++
    execStep .entrypoint c.entrypoint ++ execStep .cmd c.command

/-- The installation of dependencies stands behind other instructions of the builder. -/
theorem exists_layout_eq_install (c : Config) (args : String) (env labels : List Step) :
    ∃ behind, layout c [(.run, args)] env labels =
      inStage .builder (builderFront c) ++ ⟨.builder, .run, args⟩ :: behind :=
  ⟨inStage .builder (projectSteps c.flavor) ++ inStage .runtime (runtimeLayout c env labels), by
    simp [layout, inStage, builderLayout, builderFront, List.append_assoc]⟩

/-- What is written from templates stands behind the fixed instructions of both stages, and in
front of the authors. -/
theorem layout_eq_templates (c : Config) (install env labels : List Step) :
    layout c install env labels =
      (inStage .builder (builderLayout c install) ++ inStage .runtime (runtimeFront c)) ++
        inStage .runtime (env ++ labels) ++ inStage .runtime (authorSteps c) := by
  simp [layout, runtimeLayout, runtimeFront, inStage, List.append_assoc]

/-! ## Parts that are written item by item -/

private theorem eq_ok_iff_forall₂ {α β ε : Type} {f : List α → Except ε (List β)}
    {R : α → β → Prop} (hnil : f [] = .ok [])
    (hcons : ∀ x rest ys, f (x :: rest) = .ok ys ↔
      ∃ y others, R x y ∧ f rest = .ok others ∧ ys = y :: others)
    {xs : List α} {ys : List β} : f xs = .ok ys ↔ List.Forall₂ R xs ys := by
  induction xs generalizing ys with
  | nil => rw [hnil, Except.ok.injEq, List.forall₂_nil_left_iff, eq_comm]
  | cons x rest ih =>
    rw [hcons, List.forall₂_cons_left_iff]
    simp only [ih]

/-- The options of indices are written when that of each index is. -/
theorem indexOptions_eq_ok_iff {indices : List PackageIndex} {options : List String} :
    indexOptions label indices = .ok options ↔
      List.Forall₂ (fun i option ↦ IndexOption.render i = .ok option) indices options := by
  refine eq_ok_iff_forall₂ (f := indexOptions label) rfl fun i rest options ↦ ?_
  rw [indexOptions]
  cases hi : IndexOption.render i with
  | error flaw => simp
  | ok option => cases hr : indexOptions label rest <;> simp [Except.map, eq_comm]

/-- What stands for a template: its keyword, and its key with the text that it is written as. -/
def IsAssigned (keyword : Keyword) (params : Dict String) (entry : String × String)
    (step : Step) : Prop :=
  ∃ text, Template.expand entry.2 params = .ok text ∧ step = (keyword, assignment entry.1 text)

/-- Templates are written when each of them is. -/
theorem assignments_eq_ok_iff {keyword : Keyword} {field : String → TemplateField}
    {entries : List (String × String)} {steps : List Step} :
    assignments label keyword field params entries = .ok steps ↔
      List.Forall₂ (IsAssigned keyword params) entries steps := by
  refine eq_ok_iff_forall₂ (f := assignments label keyword field params) rfl
    fun entry rest steps ↦ ?_
  obtain ⟨key, value⟩ := entry
  rw [assignments]
  cases hv : Template.expand value params with
  | error e => simp [IsAssigned, hv]
  | ok text =>
    cases hr : assignments label keyword field params rest <;>
      simp [IsAssigned, hv, Except.map, eq_comm]

/-- Each template is written by an instruction. -/
theorem exists_mem_of_isAssigned {keyword : Keyword} {entries : List (String × String)}
    {steps : List Step} (h : List.Forall₂ (IsAssigned keyword params) entries steps)
    {entry : String × String} (hentry : entry ∈ entries) :
    ∃ text, Template.expand entry.2 params = .ok text ∧
      (keyword, assignment entry.1 text) ∈ steps := by
  induction h with
  | nil => cases hentry
  | cons hstep _ ih =>
    rcases List.mem_cons.mp hentry with rfl | hentry
    · obtain ⟨text, hexpand, rfl⟩ := hstep
      exact ⟨text, hexpand, List.mem_cons_self⟩
    · obtain ⟨text, hexpand, hmem⟩ := ih hentry
      exact ⟨text, hexpand, List.mem_cons_of_mem _ hmem⟩

/-! ## The installation of dependencies -/

/-- The arguments of the instruction that installs the dependencies. -/
def installArgs (c : Config) (options : List String) : String :=
  " ".intercalate (installMounts c ++ ["python -m pip install --user --retries 2"] ++ options ++
    installSubjects c)

/-- With neither a lock file nor a dependency there is nothing to install. -/
theorem installDependencies_eq_nil (hr : c.requirements = none) (hd : c.dependencies = []) :
    installDependencies c = .ok [] := by
  simp [installDependencies, hr, hd]

/-- A lock file or a dependency is installed by one instruction, once the indices can be
written. -/
theorem installDependencies_eq_ok_iff {install : List Step}
    (h : c.requirements ≠ none ∨ c.dependencies ≠ []) :
    installDependencies c = .ok install ↔ ∃ options,
      List.Forall₂ (fun i option ↦ IndexOption.render i = .ok option) c.indices options ∧
        install = [(.run, installArgs c options)] := by
  have hsome : ¬ ((c.requirements.isNone && c.dependencies.isEmpty) = true) := by
    simpa [imp_iff_or_not, or_comm] using h
  rw [installDependencies, if_neg hsome]
  simp only [← @indexOptions_eq_ok_iff c.label]
  cases indexOptions c.label c.indices with
  | error e => simp [Except.map]
  | ok options => simp [Except.map, installArgs, eq_comm]

end ContainerBuild.Script
