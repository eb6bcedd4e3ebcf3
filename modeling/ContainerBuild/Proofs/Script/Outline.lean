import ContainerBuild.Proofs.Dict.Merge
import ContainerBuild.Proofs.Script.Keywords

/-!
# The outline of a script

The instructions of a compiled script are known from the configuration, one after the other: each
stands for a fixed step, for a key that gets a value, or for a file. Which options a configuration
has only decides whether an instruction is there, never where it stands. So the layers that change
least come first, and what runs as the unprivileged user comes behind all commands.
-/

namespace ContainerBuild.Script

variable {c : Config} {params : Dict String} {install : List Step}

/-- What an instruction is there for. -/
inductive Heading where
  | step (keyword : Keyword)
  /-- Gives a key a value. -/
  | assign (keyword : Keyword) (key : String)
  /-- Takes a file from one path to another. -/
  | transfer (keyword : Keyword) (f : FileSpec)

namespace Heading

/-- The keyword of an instruction. -/
def keyword : Heading → Keyword
  | step k | assign k _ | transfer k _ => k

/-- Whether arguments are those of a heading; the ones of a fixed step are not looked at. -/
def Describes : Heading → String → Prop
  | step _, _ => True
  | assign _ key, args => ∃ value, args = assignment key value
  | transfer _ f, args => ∃ options, args = options ++ paths f

/-- Whether an instruction is the one that a heading stands for. -/
def Heads (h : Heading) (keyword : Keyword) (args : String) : Prop :=
  keyword = h.keyword ∧ h.Describes args

end Heading

/-- A heading that is there on a condition. -/
def headingIf (p : Prop) [Decidable p] (h : Heading) : List Heading := if p then [h] else []

/-- The headings of files that are copied and of files that are fetched. -/
def fileHeadings (copies adds : List FileSpec) : List Heading :=
  copies.map (.transfer .copy) ++ adds.map (.transfer .add)

/-- The outline of the builder, in which the environment has some keys. -/
def builderOutline (c : Config) (keys : List String) : List Heading :=
  [Heading.step .from] ++ headingIf (c.buildDeps ≠ []) (.step .run) ++
    keys.map (Heading.assign .env) ++ fileHeadings c.copyFilesBeforeBuild c.addFilesBeforeBuild ++
    headingIf (c.requirements ≠ none ∨ c.dependencies ≠ []) (.step .run) ++
    [Heading.step .copy, .step .run, .step .run]

/-- The outline of the runtime stage up to the commands, which prepare the image. -/
def commandOutline (c : Config) : List Heading :=
  [Heading.step .from] ++ headingIf (c.systemDeps ≠ []) (.step .run) ++ [Heading.step .run]

/-- The outline of the runtime stage behind the commands, in which the labels have some keys. -/
def userOutline (c : Config) (keys : List String) : List Heading :=
  [Heading.step .user, .step .copy, .step .env] ++ fileHeadings c.copyFiles c.addFiles ++
    headingIf (c.entrypoint ≠ []) (.step .entrypoint) ++
    headingIf (c.command ≠ []) (.step .cmd) ++
    c.env.keys.map (Heading.assign .env) ++ keys.map (Heading.assign .label) ++
    headingIf (c.authors ≠ []) (.assign .label authorsLabel)

/-- Whether steps are those of an outline, one for each heading. -/
def Follows (headings : List Heading) (steps : List Step) : Prop :=
  List.Forall₂ (fun h step ↦ h.Heads step.1 step.2) headings steps

/-! ## Part by part -/

/-- A heading on a condition that holds. -/
theorem headingIf_pos {p : Prop} [Decidable p] (hp : p) (h : Heading) : headingIf p h = [h] :=
  if_pos hp

/-- A heading on a condition that does not hold. -/
theorem headingIf_neg {p : Prop} [Decidable p] (hp : ¬p) (h : Heading) : headingIf p h = [] :=
  if_neg hp

namespace Follows

/-- Parts follow their outlines one after the other. -/
theorem append {a b : List Heading} {s t : List Step} (ha : Follows a s) (hb : Follows b t) :
    Follows (a ++ b) (s ++ t) := List.rel_append ha hb

/-- No steps follow no outline. -/
theorem nil : Follows [] [] := List.Forall₂.nil

/-- A fixed step in front of others. -/
theorem step (keyword : Keyword) (args : String) {headings : List Heading} {steps : List Step}
    (h : Follows headings steps) : Follows (.step keyword :: headings) ((keyword, args) :: steps) :=
  .cons ⟨rfl, trivial⟩ h

/-- A command for packages is there when there are packages. -/
theorem packages {names : List String} {command : Option String}
    (h : command.isSome = true ↔ names ≠ []) :
    Follows (headingIf (names ≠ []) (.step .run)) (command.toList.map (.run, ·)) := by
  cases command with
  | none =>
    rw [headingIf_neg fun hne ↦ by cases h.mpr hne]
    exact nil
  | some command =>
    rw [headingIf_pos (h.mp rfl)]
    exact step .run command nil

private theorem exec (keyword : Keyword) (texts : List String) :
    Follows (headingIf (texts ≠ []) (.step keyword)) (execStep keyword texts) := by
  cases texts with
  | nil =>
    rw [headingIf_neg fun hne ↦ hne rfl]
    exact nil
  | cons text texts =>
    rw [headingIf_pos (List.cons_ne_nil _ _)]
    exact step keyword _ nil

/-- Files are copied, then fetched, each by one instruction. -/
theorem files (copies adds : List FileSpec) :
    Follows (fileHeadings copies adds) (fileSteps copies adds) := by
  apply append
  · rw [Follows, List.forall₂_map_left_iff, List.forall₂_map_right_iff, List.forall₂_same]
    intro f _
    exact ⟨rfl, "", String.empty_append.symm⟩
  · rw [Follows, List.forall₂_map_left_iff, List.forall₂_map_right_iff, List.forall₂_same]
    intro f _
    exact ⟨rfl, _, rfl⟩

/-- The environment of the builder has one instruction for each key. -/
theorem builderEnv (env : Dict String) :
    Follows (env.keys.map (.assign .env))
      (env.entries.map fun (key, value) ↦ (.env, assignment key value)) := by
  rw [Follows, Dict.keys, List.map_map, List.forall₂_map_left_iff, List.forall₂_map_right_iff,
    List.forall₂_same]
  intro entry _
  exact ⟨rfl, entry.2, rfl⟩

/-- What stands for templates has one instruction for each key. -/
theorem of_isAssigned {keyword : Keyword} {d : Dict String} {steps : List Step}
    (h : List.Forall₂ (IsAssigned keyword params) d.entries steps) :
    Follows (d.keys.map (.assign keyword)) steps := by
  rw [Follows, Dict.keys, List.map_map, List.forall₂_map_left_iff]
  refine h.imp fun entry step hstep ↦ ?_
  obtain ⟨text, -, rfl⟩ := hstep
  exact ⟨rfl, text, rfl⟩

private theorem installation (h : installDependencies c = .ok install) :
    Follows (headingIf (c.requirements ≠ none ∨ c.dependencies ≠ []) (.step .run)) install := by
  by_cases hsome : c.requirements ≠ none ∨ c.dependencies ≠ []
  · obtain ⟨options, -, rfl⟩ := (installDependencies_eq_ok_iff hsome).mp h
    rw [headingIf_pos hsome]
    exact step .run _ nil
  · rw [headingIf_neg hsome]
    rw [not_or, not_not, not_not] at hsome
    rw [installDependencies_eq_nil hsome.1 hsome.2, Except.ok.injEq] at h
    rw [← h]
    exact nil

/-- The authors are a label when there are any. -/
theorem authors (c : Config) :
    Follows (headingIf (c.authors ≠ []) (.assign .label authorsLabel)) (authorSteps c) := by
  rw [authorSteps]
  cases c.authors with
  | nil =>
    rw [headingIf_neg fun hne ↦ hne rfl]
    exact nil
  | cons author rest =>
    rw [headingIf_pos (List.cons_ne_nil _ _)]
    exact .cons ⟨rfl, _, rfl⟩ nil

end Follows

/-! ## Stage by stage -/

/-- The builder follows its outline. -/
theorem follows_builderLayout (h : installDependencies c = .ok install) :
    Follows (builderOutline c (Script.builderEnv.merge c.env).keys) (builderLayout c install) := by
  have hpackages : Follows (headingIf (c.buildDeps ≠ []) (.step .run))
      ((Packages.buildInstall c.flavor c.buildDeps).toList.map (.run, ·)) := by
    apply Follows.packages
    cases c.buildDeps <;> simp [Packages.buildInstall]
  have hproject : Follows [.step .copy, .step .run, .step .run] (projectSteps c.flavor) :=
    .step .copy _ (.step .run _ (.step .run _ .nil))
  exact (((((Follows.step .from _ .nil).append hpackages).append
    (.builderEnv _)).append (.files _ _)).append (.installation h)).append hproject

/-- The runtime stage follows its outline. -/
theorem follows_runtimeLayout {env labels : List Step} (henv : envSteps c params = .ok env)
    (hlabels : labelSteps c params = .ok labels) :
    Follows (commandOutline c ++ userOutline c (defaultLabels.merge c.labels).keys)
      (runtimeLayout c env labels) := by
  rw [envSteps, assignments_eq_ok_iff] at henv
  rw [labelSteps, assignments_eq_ok_iff] at hlabels
  have hpackages : Follows (headingIf (c.systemDeps ≠ []) (.step .run))
      ((Packages.runtimeInstall c.flavor c.systemDeps).toList.map (.run, ·)) := by
    apply Follows.packages
    cases c.systemDeps <;> cases c.flavor <;> simp [Packages.runtimeInstall]
  have huser : Follows [.step .user, .step .copy, .step .env] (userSteps c.flavor).tail :=
    .step .user _ (.step .copy _ (.step .env _ .nil))
  -- the last command belongs to the first part of the outline
  have hlayout : runtimeLayout c env labels =
      ([(Keyword.from, baseImage c)] ++
        (Packages.runtimeInstall c.flavor c.systemDeps).toList.map (Keyword.run, ·) ++
        [(Keyword.run, Packages.createUser c.flavor)]) ++
      ((userSteps c.flavor).tail ++ fileSteps c.copyFiles c.addFiles ++
        execStep .entrypoint c.entrypoint ++ execStep .cmd c.command ++ env ++ labels ++
        authorSteps c) := by
    simp [runtimeLayout, userSteps]
  rw [hlayout]
  apply Follows.append
  · exact ((Follows.step .from _ .nil).append hpackages).append (.step .run _ .nil)
  · exact (((((huser.append (.files _ _)).append (.exec _ _)).append (.exec _ _)).append
      (.of_isAssigned henv)).append (.of_isAssigned hlabels)).append (.authors c)

/-! ## What an outline excludes -/

private theorem Follows.map_keyword {headings : List Heading} {steps : List Step}
    (h : Follows headings steps) (stage : Stage) :
    (inStage stage steps).map (·.keyword) = headings.map Heading.keyword := by
  induction h with
  | nil => rfl
  | cons hstep _ ih => exact List.cons_eq_cons.mpr ⟨hstep.1, ih⟩

/-- The heading that is there on a condition. -/
@[simp] theorem mem_headingIf {p : Prop} [Decidable p] {h heading : Heading} :
    heading ∈ headingIf p h ↔ p ∧ heading = h := by
  by_cases hp : p <;> simp [headingIf, hp]

private theorem keyword_ne_user_of_mem_builderOutline {keys : List String} {h : Heading}
    (hh : h ∈ builderOutline c keys) : h.keyword ≠ .user := by
  simp only [builderOutline, fileHeadings, List.mem_append, mem_headingIf, List.mem_map,
    List.mem_cons, List.not_mem_nil, or_false] at hh
  rcases hh with ((((rfl | ⟨-, rfl⟩) | ⟨_, -, rfl⟩) | ⟨_, -, rfl⟩ | ⟨_, -, rfl⟩) | ⟨-, rfl⟩) |
    rfl | rfl | rfl <;> exact Keyword.noConfusion

private theorem keyword_ne_user_of_mem_commandOutline {h : Heading} (hh : h ∈ commandOutline c) :
    h.keyword ≠ .user := by
  simp only [commandOutline, List.mem_append, mem_headingIf, List.mem_singleton] at hh
  rcases hh with (rfl | ⟨-, rfl⟩) | rfl <;> exact Keyword.noConfusion

private theorem keyword_ne_run_of_mem_userOutline {keys : List String} {h : Heading}
    (hh : h ∈ userOutline c keys) : h.keyword ≠ .run := by
  simp only [userOutline, fileHeadings, List.mem_append, mem_headingIf, List.mem_map,
    List.mem_cons, List.not_mem_nil, or_false] at hh
  rcases hh with ((((((rfl | rfl | rfl) | ⟨_, -, rfl⟩ | ⟨_, -, rfl⟩) | ⟨-, rfl⟩) | ⟨-, rfl⟩) |
    ⟨_, -, rfl⟩) | ⟨_, -, rfl⟩) | ⟨-, rfl⟩ <;> exact Keyword.noConfusion

private theorem pairwise_of_follows {builder runtime : List Step} {envKeys labelKeys : List String}
    (hbuilder : Follows (builderOutline c envKeys) builder)
    (hruntime : Follows (commandOutline c ++ userOutline c labelKeys) runtime) :
    (inStage .builder builder ++ inStage .runtime runtime).Pairwise
      fun i j ↦ i.keyword = .user → j.keyword ≠ .run := by
  have hfront : ∀ h ∈ builderOutline c envKeys ++ commandOutline c, h.keyword ≠ .user :=
    List.forall_mem_append.mpr ⟨fun _ ↦ keyword_ne_user_of_mem_builderOutline,
      fun _ ↦ keyword_ne_user_of_mem_commandOutline⟩
  have hoff : ((builderOutline c envKeys ++ commandOutline c) ++ userOutline c labelKeys).Pairwise
      fun h h' ↦ h.keyword = .user → h'.keyword ≠ .run := by
    refine List.pairwise_append.mpr ⟨?_, ?_, fun h hh _ _ huser ↦ absurd huser (hfront h hh)⟩
    · exact List.pairwise_of_forall_mem_list fun h hh _ _ huser ↦ absurd huser (hfront h hh)
    · exact List.pairwise_of_forall_mem_list fun _ _ _ hh' _ ↦ keyword_ne_run_of_mem_userOutline hh'
  -- the order of the headings is that of the instructions
  have hkeywords : (inStage .builder builder ++ inStage .runtime runtime).map (·.keyword) =
      ((builderOutline c envKeys ++ commandOutline c) ++ userOutline c labelKeys).map
        Heading.keyword := by
    rw [List.map_append, hbuilder.map_keyword, hruntime.map_keyword, ← List.map_append,
      List.append_assoc]
  have hordered : (((builderOutline c envKeys ++ commandOutline c) ++
      userOutline c labelKeys).map Heading.keyword).Pairwise fun k l ↦ k = .user → l ≠ .run :=
    List.pairwise_map.mpr hoff
  rw [← hkeywords] at hordered
  exact List.pairwise_map.mp hordered

/-- A compiled script is a builder and then a runtime stage, each with the instructions of its
outline: one for each key of the default environment and labels and of those of the configuration,
one for each file, and one for each option that the configuration has. So each stage begins with
the only base image in it, and no command is run behind the switch to the unprivileged user. -/
theorem follows_of_compile {s : Script} (h : compile c params = .ok s) :
    ∃ (builder runtime : List Step) (envKeys labelKeys : List String),
      s = inStage .builder builder ++ inStage .runtime runtime ∧
      envKeys.Nodup ∧ (∀ key, key ∈ envKeys ↔ key ∈ builderEnv.keys ∨ key ∈ c.env.keys) ∧
      Follows (builderOutline c envKeys) builder ∧
      labelKeys.Nodup ∧ (∀ key, key ∈ labelKeys ↔ key ∈ defaultLabels.keys ∨ key ∈ c.labels.keys) ∧
      Follows (commandOutline c ++ userOutline c labelKeys) runtime ∧
      (∀ stage, ∃ i, (s.ofStage stage).ofKeyword .from = [i]) ∧
      s.Pairwise fun i j ↦ i.keyword = .user → j.keyword ≠ .run := by
  have hfrom := ofKeyword_from_of_compile h
  obtain ⟨install, env, labels, hinstall, henv, hlabels, rfl⟩ := compile_eq_ok_iff.mp h
  have hbuilder := follows_builderLayout hinstall
  have hruntime := follows_runtimeLayout henv hlabels
  refine ⟨_, _, _, _, rfl, Dict.nodup_keys _, fun key ↦ ?_, hbuilder, Dict.nodup_keys _,
    fun key ↦ ?_, hruntime, fun stage ↦ ?_, ?_⟩
  · rw [Dict.mem_keys_merge, or_comm]
  · rw [Dict.mem_keys_merge, or_comm]
  · have hcomm : ((layout c install env labels).ofStage stage).ofKeyword .from =
        ((layout c install env labels).ofKeyword .from).ofStage stage := by
      rw [ofStage, ofKeyword, ofKeyword, ofStage, List.filter_comm]
    rw [hcomm, hfrom]
    cases stage <;> exact ⟨_, rfl⟩
  · exact pairwise_of_follows hbuilder hruntime

/-- A configuration that overrides a default key, copies a file and starts a command. -/
theorem follows_of_compile_service :
    let c : Config :=
      { name := "app", pythonVersion := "3.13", buildDeps := ["gcc"], dependencies := ["flask"]
        env := .ofList [("PIP_USER", "0"), ("PORT", "80")], labels := .ofList [("team", "web")]
        copyFiles := [⟨"app.toml", "/etc/app.toml", none⟩], command := ["serve"]
        authors := [⟨"Ada", none⟩] }
    ∃ s, compile c .empty = .ok s ∧
      ∃ (builder runtime : List Step) (envKeys labelKeys : List String),
      s = inStage .builder builder ++ inStage .runtime runtime ∧
      envKeys.Nodup ∧ (∀ key, key ∈ envKeys ↔ key ∈ builderEnv.keys ∨ key ∈ ["PIP_USER", "PORT"]) ∧
      Follows ([Heading.step .from, .step .run] ++ envKeys.map (Heading.assign .env) ++
        [Heading.step .run, .step .copy, .step .run, .step .run]) builder ∧
      labelKeys.Nodup ∧ (∀ key, key ∈ labelKeys ↔ key ∈ defaultLabels.keys ∨ key ∈ ["team"]) ∧
      Follows ([Heading.step .from, .step .run, .step .user, .step .copy, .step .env,
        .transfer .copy ⟨"app.toml", "/etc/app.toml", none⟩, .step .cmd, .assign .env "PIP_USER",
        .assign .env "PORT"] ++ labelKeys.map (Heading.assign .label) ++
        [Heading.assign .label authorsLabel]) runtime ∧
      (∀ stage, ∃ i, (s.ofStage stage).ofKeyword .from = [i]) ∧
      s.Pairwise fun i j ↦ i.keyword = .user → j.keyword ≠ .run := by
  intro c
  have hsome : (compile c .empty).toOption.isSome = true := by decide +kernel
  obtain ⟨s, hs⟩ := exists_eq_ok_of_isSome hsome
  obtain ⟨builder, runtime, envKeys, labelKeys, heq, henvNodup, henv, hbuilder, hlabelNodup, hlabel,
    hruntime, hfrom, hrun⟩ := follows_of_compile hs
  rw [builderOutline] at hbuilder
  rw [commandOutline, userOutline] at hruntime
  refine ⟨s, hs, builder, runtime, envKeys, labelKeys, heq, henvNodup, henv, ?_, hlabelNodup,
    hlabel, ?_, hfrom, hrun⟩
  · simpa [c, headingIf, fileHeadings] using hbuilder
  · have hkeys : c.env.keys = ["PIP_USER", "PORT"] := by decide
    rw [hkeys] at hruntime
    simpa [c, headingIf, fileHeadings] using hruntime

end ContainerBuild.Script
