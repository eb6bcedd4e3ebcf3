import ContainerBuild.Proofs.Dict.Merge
import ContainerBuild.Proofs.Script.IndexOption
import ContainerBuild.Proofs.Script.Mounts

/-!
# Lines of a script

A script is written with one line for each instruction and an empty one between its stages. The
paths of files, the commands of an image, the path of a lock file, the names of secrets and the
URLs of indices never bring a line feed into an instruction. All other texts of a configuration
are written with the line feeds that they have, and then an instruction takes several lines. No
instruction ends in a backslash.
-/

namespace ContainerBuild.Script

open Text (IsOneLine IsClosed)

variable {c : Config} {params : Dict String} {steps builder runtime : List Step}

/-! ## Stages -/

private theorem linesAfter_inStage (stage : Stage) (steps : List Step) (s : Script) :
    linesAfter (some stage) (inStage stage steps ++ s) =
      (inStage stage steps).map Instruction.render ++ linesAfter (some stage) s := by
  induction steps with
  | nil => rfl
  | cons step steps ih =>
    have hcons : inStage stage (step :: steps) =
        ⟨stage, step.1, step.2⟩ :: inStage stage steps := rfl
    rw [hcons, List.cons_append, linesAfter, ih]
    simp

private theorem render_mem_lines {s : Script} {i : Instruction} (h : i ∈ s) :
    i.render ∈ s.lines := by
  have hafter (previous : Option Stage) : i.render ∈ linesAfter previous s := by
    induction s generalizing previous with
    | nil => cases h
    | cons next rest ih =>
      have hline : i.render ∈ next.render :: linesAfter (some next.stage) rest := by
        rcases List.mem_cons.mp h with rfl | h
        · exact List.mem_cons_self
        · exact List.mem_cons_of_mem _ (ih h _)
      rw [linesAfter]
      split
      · exact List.mem_cons_of_mem _ hline
      · exact hline
  exact hafter none

private theorem lines_inStage (hb : builder ≠ []) (hr : runtime ≠ []) :
    lines (inStage .builder builder ++ inStage .runtime runtime) =
      (inStage .builder builder).map Instruction.render ++
        "" :: (inStage .runtime runtime).map Instruction.render := by
  obtain ⟨first, builder, rfl⟩ := List.exists_cons_of_ne_nil hb
  obtain ⟨next, runtime, rfl⟩ := List.exists_cons_of_ne_nil hr
  have hbuilder : inStage .builder (first :: builder) =
      ⟨.builder, first.1, first.2⟩ :: inStage .builder builder := rfl
  have hruntime : inStage .runtime (next :: runtime) =
      ⟨.runtime, next.1, next.2⟩ :: inStage .runtime runtime := rfl
  have hrest := linesAfter_inStage .runtime runtime []
  rw [List.append_nil] at hrest
  rw [hbuilder, hruntime, lines, List.cons_append, linesAfter, linesAfter_inStage, linesAfter,
    hrest]
  simp [linesAfter]

/-! ## Line feeds -/

/-- Every instruction stays on one line. -/
def AllOneLine (steps : List Step) : Prop := ∀ step ∈ steps, IsOneLine step.2

/-- The key of an entry, and its value with the parameters put in. -/
def writtenTexts (params : Dict String) (entry : String × String) : List String :=
  entry.1 :: (Template.expand entry.2 params).toOption.toList

/-- The checksums of fetched files. -/
def checksums (adds : List FileSpec) : List String := adds.filterMap (·.checksum)

/-- The texts that the builder takes from a configuration as they are. -/
def builderTexts (c : Config) : List String :=
  c.buildDeps ++ c.env.entries.flatMap (fun (key, value) ↦ [key, value]) ++
    checksums c.addFilesBeforeBuild ++ (if c.requirements.isNone then c.dependencies else [])

/-- The texts that the runtime stage takes from a configuration as they are. -/
def runtimeTexts (c : Config) (params : Dict String) : List String :=
  c.systemDeps ++ checksums c.addFiles ++ c.env.entries.flatMap (writtenTexts params) ++
    c.labels.entries.flatMap (writtenTexts params) ++ c.authors.map Author.render

/-- An assignment stays on one line when its key and its value do. -/
theorem isOneLine_assignment (key value : String) :
    IsOneLine (assignment key value) ↔ IsOneLine key ∧ IsOneLine value := by
  rw [assignment, Text.isOneLine_append, Text.isOneLine_append, Quote.isOneLine_value]
  simp [show IsOneLine "=" by decide]

private theorem isOneLine_copyStep (f : FileSpec) : IsOneLine (copyStep f).2 :=
  Json.isOneLine_quoteAll [f.src, f.dst]

private theorem isOneLine_addStep (f : FileSpec) :
    IsOneLine (addStep f).2 ↔ ∀ checksum, f.checksum = some checksum → IsOneLine checksum := by
  have hpaths : IsOneLine (paths f) := Json.isOneLine_quoteAll [f.src, f.dst]
  rw [addStep, Text.isOneLine_append]
  cases f.checksum with
  | none => simp [hpaths, show IsOneLine "" by decide]
  | some checksum =>
    simp [Text.isOneLine_append, hpaths, show IsOneLine "--checksum=" by decide,
      show IsOneLine " " by decide]

/-- Files stay on one line when the checksums of those that are fetched do. -/
theorem allOneLine_fileSteps (copies adds : List FileSpec) :
    AllOneLine (fileSteps copies adds) ↔ ∀ text ∈ checksums adds, IsOneLine text := by
  rw [AllOneLine, fileSteps, List.forall_mem_append, List.forall_mem_map, List.forall_mem_map,
    checksums, List.forall_mem_filterMap]
  simp only [isOneLine_copyStep, isOneLine_addStep, implies_true, true_and]

/-- Templates that are written stay on one line when their keys and their written values do. -/
theorem allOneLine_assignments {label : String} {keyword : Keyword}
    {field : String → TemplateField} {entries : List (String × String)}
    (h : assignments label keyword field params entries = .ok steps) :
    AllOneLine steps ↔
      ∀ entry ∈ entries, ∀ text ∈ writtenTexts params entry, IsOneLine text := by
  have hall := assignments_eq_ok_iff.mp h
  clear h
  induction hall with
  | nil => simp [AllOneLine]
  | @cons entry step entries steps hstep _ ih =>
    obtain ⟨text, htext, rfl⟩ := hstep
    rw [AllOneLine, List.forall_mem_cons, List.forall_mem_cons, isOneLine_assignment]
    refine and_congr ?_ ih
    simp [writtenTexts, htext, Except.toOption]

private theorem allOneLine_builderEnv (c : Config) :
    AllOneLine ((builderEnv.merge c.env).entries.map
        fun (key, value) ↦ (.env, assignment key value)) ↔
      ∀ text ∈ c.env.entries.flatMap (fun (key, value) ↦ [key, value]), IsOneLine text := by
  have hbuilder : ∀ entry ∈ builderEnv.entries, IsOneLine (assignment entry.1 entry.2) := by
    decide
  rw [AllOneLine, List.forall_mem_map, List.forall_mem_flatMap]
  rw [Dict.forall_mem_entries_merge hbuilder]
  simp [isOneLine_assignment]

private theorem allOneLine_labelSteps {labels : List Step} (h : labelSteps c params = .ok labels) :
    AllOneLine labels ↔
      ∀ text ∈ c.labels.entries.flatMap (writtenTexts params), IsOneLine text := by
  have hdefault : ∀ entry ∈ defaultLabels.entries, IsOneLine entry.1 ∧ IsOneLine entry.2 := by
    decide
  rw [allOneLine_assignments h, List.forall_mem_flatMap]
  refine Dict.forall_mem_entries_merge fun entry hentry ↦ ?_
  obtain ⟨hkey, hvalue⟩ := hdefault entry hentry
  simp [writtenTexts, expand_of_mem_defaultLabels hentry, Except.toOption, hkey, hvalue]

private theorem allOneLine_authorSteps (c : Config) :
    AllOneLine (authorSteps c) ↔ ∀ text ∈ c.authors.map Author.render, IsOneLine text := by
  rw [authorSteps, AllOneLine]
  split
  · next hempty => simp [List.isEmpty_iff.mp hempty]
  · rw [List.forall_mem_singleton, isOneLine_assignment,
      Text.isOneLine_intercalate (by decide)]
    simp [show IsOneLine authorsLabel by decide]

private theorem allOneLine_execStep (keyword : Keyword) (texts : List String) :
    AllOneLine (execStep keyword texts) := by
  rw [execStep]
  split
  · exact fun step hstep ↦ by cases hstep
  · exact List.forall_mem_singleton.mpr (Json.isOneLine_quoteAll texts)

/-! ## Packages -/

/-- Packages are installed by a fixed command with their names behind it. -/
theorem exists_cachedInstall_eq (flavor : Flavor) :
    ∃ lead, IsOneLine lead ∧
      ∀ packages, Packages.cachedInstall flavor packages = lead ++ Quote.shellWords packages := by
  cases flavor with
  | debian =>
    have hmounts : IsOneLine Packages.aptMounts := Text.isOneLine_append.mpr
      ⟨Text.isOneLine_ofList (by decide), Text.isOneLine_ofList (by decide)⟩
    refine ⟨Packages.aptMounts ++
      " rm -f /etc/apt/apt.conf.d/docker-clean && apt-get update && " ++
      "apt-get install -y --no-install-recommends ", ?_, fun _ ↦ rfl⟩
    rw [Text.isOneLine_append, Text.isOneLine_append]
    exact ⟨⟨hmounts, Text.isOneLine_ofList (by decide)⟩, Text.isOneLine_ofList (by decide)⟩
  | alpine =>
    have hmount : IsOneLine Packages.apkMount := Text.isOneLine_ofList (by decide)
    refine ⟨Packages.apkMount ++ " apk add --update-cache ", ?_, fun _ ↦ rfl⟩
    exact Text.isOneLine_append.mpr ⟨hmount, Text.isOneLine_ofList (by decide)⟩

/-- Packages of the final image are installed by a fixed command around their names. -/
theorem exists_runtimeInstall_eq (flavor : Flavor) :
    ∃ lead trail, IsOneLine lead ∧ IsOneLine trail ∧ IsClosed trail ∧
      ∀ packages, packages ≠ [] → Packages.runtimeInstall flavor packages =
        some (lead ++ Quote.shellWords packages ++ trail) := by
  have hsome {packages : List String} (h : packages ≠ []) : packages.isEmpty = false :=
    List.isEmpty_eq_false_iff.mpr h
  cases flavor with
  | debian =>
    refine ⟨"apt-get update && apt-get install -y --no-install-recommends ",
      " && rm -rf /var/lib/apt/lists/*", Text.isOneLine_ofList (by decide),
      Text.isOneLine_ofList (by decide), ⟨'*', rfl, by decide⟩, fun packages h ↦ ?_⟩
    rw [Packages.runtimeInstall, hsome h]
    rfl
  | alpine =>
    refine ⟨"apk add --update-cache ", " && rm -rf /var/cache/apk/*",
      Text.isOneLine_ofList (by decide), Text.isOneLine_ofList (by decide),
      ⟨'*', rfl, by decide⟩, fun packages h ↦ ?_⟩
    rw [Packages.runtimeInstall, hsome h]
    rfl

private theorem allOneLine_buildInstall (flavor : Flavor) (packages : List String) :
    AllOneLine ((Packages.buildInstall flavor packages).toList.map (.run, ·)) ↔
      ∀ text ∈ packages, IsOneLine text := by
  obtain ⟨lead, hlead, heq⟩ := exists_cachedInstall_eq flavor
  rw [AllOneLine, Packages.buildInstall]
  cases packages with
  | nil => simp
  | cons package rest =>
    simp only [List.isEmpty_cons, Bool.false_eq_true, ite_false, Option.toList_some,
      List.forall_mem_map, List.forall_mem_singleton, heq, Text.isOneLine_append, hlead,
      true_and, Quote.isOneLine_shellWords]

private theorem allOneLine_runtimeInstall (flavor : Flavor) (packages : List String) :
    AllOneLine ((Packages.runtimeInstall flavor packages).toList.map (.run, ·)) ↔
      ∀ text ∈ packages, IsOneLine text := by
  obtain ⟨lead, trail, hlead, htrail, -, heq⟩ := exists_runtimeInstall_eq flavor
  rw [AllOneLine]
  cases packages with
  | nil => simp [Packages.runtimeInstall]
  | cons package rest =>
    simp only [heq _ (List.cons_ne_nil _ _), Option.toList_some, List.forall_mem_map,
      List.forall_mem_singleton, Text.isOneLine_append, hlead, htrail, true_and, and_true,
      Quote.isOneLine_shellWords]

/-! ## The installation of dependencies -/

variable {m : Manifest} {requested : Option String} {ctx : Context} {t : Target}
  {script : Script} {install : List Step}

private theorem isOneLine_installSubjects (c : Config) :
    (∀ text ∈ installSubjects c, IsOneLine text) ↔
      ∀ text ∈ (if c.requirements.isNone then c.dependencies else []), IsOneLine text := by
  rw [installSubjects]
  cases c.requirements with
  | some path => simp [show IsOneLine ("-r " ++ lockTarget) by decide]
  | none => simp [Quote.isOneLine_shellWord]

private theorem isOneLine_installArgs (h : c.Admits m t ctx) {options : List String}
    (hoptions : List.Forall₂ (fun i option ↦ IndexOption.render i = .ok option) c.indices
      options) :
    IsOneLine (installArgs c options) ↔
      ∀ text ∈ (if c.requirements.isNone then c.dependencies else []), IsOneLine text := by
  have hmounts : ∀ mount ∈ mountsOf c, IsOneLine mount := fun mount hm ↦
    Text.isOneLine_of_isBlank (isMount_of_mem_mountsOf h hm).2
  have hssh : ∀ text ∈ (if c.transport.ssh then [sshCommand] else []), IsOneLine text := by
    split
    · exact List.forall_mem_singleton.mpr (Text.isOneLine_ofList (by decide))
    · exact fun text htext ↦ by cases htext
  have hpip : IsOneLine "python -m pip install --user --retries 2" :=
    Text.isOneLine_ofList (by decide)
  have hrender : ∀ option ∈ options, IsOneLine option := by
    have hindices : ∀ i ∈ c.indices, ∀ id ∈ i.secretIds, ∀ char ∈ id.toList,
        isSecretIdChar char = true := fun i hi id hid ↦ h.isSecretIdChar_of_mem_secretIds hi hid
    generalize c.indices = indices at hindices hoptions
    induction hoptions with
    | nil => exact fun option hoption ↦ by cases hoption
    | cons hi _ ih =>
      rw [List.forall_mem_cons] at hindices ⊢
      exact ⟨IndexOption.isOneLine_render hindices.1 hi, ih hindices.2⟩
  rw [installArgs_eq, Text.isOneLine_intercalate (by decide), List.forall_mem_append,
    and_iff_right hmounts, commandOf, List.forall_mem_append, List.forall_mem_append,
    List.forall_mem_append, and_iff_right ⟨⟨hssh, List.forall_mem_singleton.mpr hpip⟩, hrender⟩,
    isOneLine_installSubjects]

private theorem allOneLine_install (h : c.Admits m t ctx)
    (hinstall : installDependencies c = .ok install) :
    AllOneLine install ↔
      ∀ text ∈ (if c.requirements.isNone then c.dependencies else []), IsOneLine text := by
  by_cases hsome : c.requirements ≠ none ∨ c.dependencies ≠ []
  · obtain ⟨options, hoptions, rfl⟩ := (installDependencies_eq_ok_iff hsome).mp hinstall
    rw [AllOneLine, List.forall_mem_singleton, isOneLine_installArgs h hoptions]
  · rw [not_or, not_not, not_not] at hsome
    rw [installDependencies_eq_nil hsome.1 hsome.2] at hinstall
    rw [← Except.ok.inj hinstall, hsome.2]
    simp [AllOneLine]

/-! ## Stages together -/

/-- The base image of a resolved configuration stays on one line. -/
theorem isOneLine_baseImage (h : c.Admits m t ctx) : IsOneLine (baseImage c) := by
  have hversion : IsOneLine c.pythonVersion := by
    have := (Config.pythonVersionOf_eq_ok h.pythonVersion).1
    rw [← this]
    exact Text.newline_not_mem_firstLine _
  have htag : IsOneLine c.flavor.imageTag := by
    cases c.flavor <;> decide
  have hlead : IsOneLine "docker.io/python:" := by decide
  exact Text.isOneLine_append.mpr ⟨Text.isOneLine_append.mpr
    ⟨Text.isOneLine_append.mpr ⟨hlead, hversion⟩, by decide⟩, htag⟩

private theorem allOneLine_projectSteps (flavor : Flavor) : AllOneLine (projectSteps flavor) := by
  have hdir : IsOneLine projectDir := Text.isOneLine_ofList (by decide)
  have hmount : IsOneLine cacheMount := Text.isOneLine_ofList (by decide)
  have hcleanup : IsOneLine cleanup := by
    delta cleanup
    simp only [Text.isOneLine_append]
    refine ⟨⟨⟨⟨?_, ?_⟩, ?_⟩, ?_⟩, ?_⟩ <;> exact Text.isOneLine_ofList (by decide)
  have hstrip : IsOneLine (Packages.stripToolsInstall flavor) := by
    obtain ⟨lead, hlead, heq⟩ := exists_cachedInstall_eq flavor
    rw [Packages.stripToolsInstall, heq, Text.isOneLine_append, Quote.isOneLine_shellWords]
    exact ⟨hlead, by decide⟩
  simp only [AllOneLine, projectSteps, List.forall_mem_cons, Text.isOneLine_append]
  exact ⟨⟨by decide, hdir⟩, ⟨⟨hmount, Text.isOneLine_ofList (by decide)⟩, hdir⟩,
    ⟨⟨hstrip, by decide⟩, hcleanup⟩, fun step hstep ↦ by cases hstep⟩

private theorem allOneLine_builderLayout (h : c.Admits m t ctx)
    (hinstall : installDependencies c = .ok install) :
    AllOneLine (builderLayout c install) ↔ ∀ text ∈ builderTexts c, IsOneLine text := by
  have hfrom : IsOneLine (baseImage c ++ " AS builder") :=
    Text.isOneLine_append.mpr ⟨isOneLine_baseImage h, by decide⟩
  have hproject := allOneLine_projectSteps c.flavor
  have hdeps := allOneLine_buildInstall c.flavor c.buildDeps
  have henv := allOneLine_builderEnv c
  have hfiles := allOneLine_fileSteps c.copyFilesBeforeBuild c.addFilesBeforeBuild
  have hinstalled := allOneLine_install h hinstall
  simp only [AllOneLine] at *
  simp only [builderLayout, builderTexts, List.forall_mem_append, List.forall_mem_singleton,
    hfrom, hdeps, henv, hfiles, hinstalled, true_and]
  rw [and_iff_left hproject]

private theorem allOneLine_userSteps (flavor : Flavor) : AllOneLine (userSteps flavor) := by
  have hid : IsOneLine Packages.userId := by decide
  have hname : IsOneLine Packages.userName := by decide
  have hhome : IsOneLine Packages.userHome := by decide
  have howner : IsOneLine owner := by decide
  have hcreate : IsOneLine (Packages.createUser flavor) := by
    delta Packages.createUser
    cases flavor with
    | debian =>
      simp only [Text.isOneLine_append, hid, hname, hhome, and_true]
      exact ⟨⟨Text.isOneLine_ofList (by decide), Text.isOneLine_ofList (by decide)⟩,
        Text.isOneLine_ofList (by decide)⟩
    | alpine =>
      simp only [Text.isOneLine_append, hid, hname, hhome, and_true]
      exact ⟨⟨⟨⟨⟨by decide, by decide⟩, Text.isOneLine_ofList (by decide)⟩, by decide⟩,
        by decide⟩, by decide⟩
  simp only [AllOneLine, userSteps, List.forall_mem_cons, Text.isOneLine_append]
  exact ⟨hcreate, howner,
    ⟨⟨⟨⟨Text.isOneLine_ofList (by decide), howner⟩, by decide⟩, hhome⟩, by decide⟩,
    ⟨⟨by decide, hhome⟩, Text.isOneLine_ofList (by decide)⟩, fun step hstep ↦ by cases hstep⟩

private theorem allOneLine_runtimeLayout (h : c.Admits m t ctx) {env labels : List Step}
    (henv : envSteps c params = .ok env) (hlabels : labelSteps c params = .ok labels) :
    AllOneLine (runtimeLayout c env labels) ↔
      ∀ text ∈ runtimeTexts c params, IsOneLine text := by
  have hdeps := allOneLine_runtimeInstall c.flavor c.systemDeps
  have huser := allOneLine_userSteps c.flavor
  have hfiles := allOneLine_fileSteps c.copyFiles c.addFiles
  have hexec := allOneLine_execStep
  have henv := allOneLine_assignments henv
  rw [← List.forall_mem_flatMap] at henv
  have hlabels := allOneLine_labelSteps hlabels
  have hauthors := allOneLine_authorSteps c
  have hfrom := isOneLine_baseImage h
  simp only [AllOneLine] at *
  simp only [runtimeLayout, runtimeTexts, List.forall_mem_append, List.forall_mem_singleton,
    hfrom, hdeps, hfiles, henv, hlabels, hauthors, true_and]
  rw [and_iff_left (hexec _ _), and_iff_left (hexec _ _), and_iff_left huser]

/-! ## Ends of lines -/

/-- No instruction goes on in the next line. -/
def AllClosed (steps : List Step) : Prop := ∀ step ∈ steps, IsClosed step.2

private theorem isClosed_shellWords {texts : List String} (h : texts ≠ []) :
    IsClosed (Quote.shellWords texts) := by
  refine Text.isClosed_intercalate (by simpa using h) ?_
  rw [List.forall_mem_map]
  exact fun text _ ↦ Quote.isClosed_shellWord text

/-- An assignment is closed. -/
theorem isClosed_assignment (key value : String) : IsClosed (assignment key value) :=
  (Quote.isClosed_value value).append _

/-- Files are closed. -/
theorem allClosed_fileSteps (copies adds : List FileSpec) : AllClosed (fileSteps copies adds) := by
  rw [AllClosed, fileSteps, List.forall_mem_append, List.forall_mem_map, List.forall_mem_map]
  have hpaths (f : FileSpec) : IsClosed (paths f) := Json.isClosed_quoteAll [f.src, f.dst]
  exact ⟨fun f _ ↦ hpaths f, fun f _ ↦ (hpaths f).append _⟩

private theorem allClosed_assignments {label : String} {keyword : Keyword}
    {field : String → TemplateField} {entries : List (String × String)}
    (h : assignments label keyword field params entries = .ok steps) : AllClosed steps := by
  have hall := assignments_eq_ok_iff.mp h
  clear h
  induction hall with
  | nil => exact fun step hstep ↦ by cases hstep
  | cons hstep _ ih =>
    obtain ⟨text, -, rfl⟩ := hstep
    exact List.forall_mem_cons.mpr ⟨isClosed_assignment _ text, ih⟩

private theorem isClosed_installArgs (h : c.requirements ≠ none ∨ c.dependencies ≠ [])
    (options : List String) : IsClosed (installArgs c options) := by
  have hsubjects : installSubjects c ≠ [] ∧ ∀ text ∈ installSubjects c, IsClosed text := by
    rw [installSubjects]
    cases hr : c.requirements with
    | some path =>
      exact ⟨List.cons_ne_nil _ _, List.forall_mem_singleton.mpr ⟨'t', rfl, by decide⟩⟩
    | none =>
      refine ⟨by simpa [hr] using h, ?_⟩
      rw [List.forall_mem_map]
      exact fun text _ ↦ Quote.isClosed_shellWord text
  rw [installArgs, String.intercalate_append_of_ne_nil (by simp) hsubjects.1]
  exact (Text.isClosed_intercalate hsubjects.1 hsubjects.2).append _

private theorem allClosed_install (hinstall : installDependencies c = .ok install) :
    AllClosed install := by
  by_cases hsome : c.requirements ≠ none ∨ c.dependencies ≠ []
  · obtain ⟨options, -, rfl⟩ := (installDependencies_eq_ok_iff hsome).mp hinstall
    exact List.forall_mem_singleton.mpr (isClosed_installArgs hsome options)
  · rw [not_or, not_not, not_not] at hsome
    rw [installDependencies_eq_nil hsome.1 hsome.2] at hinstall
    rw [← Except.ok.inj hinstall]
    exact fun step hstep ↦ by cases hstep

private theorem allClosed_buildInstall (flavor : Flavor) (packages : List String) :
    AllClosed ((Packages.buildInstall flavor packages).toList.map (.run, ·)) := by
  obtain ⟨lead, -, heq⟩ := exists_cachedInstall_eq flavor
  rw [AllClosed, Packages.buildInstall]
  cases packages with
  | nil => exact fun step hstep ↦ by cases hstep
  | cons package rest =>
    rw [List.isEmpty_cons, if_neg Bool.false_ne_true, heq]
    exact List.forall_mem_singleton.mpr ((isClosed_shellWords (List.cons_ne_nil _ _)).append lead)

private theorem allClosed_runtimeInstall (flavor : Flavor) (packages : List String) :
    AllClosed ((Packages.runtimeInstall flavor packages).toList.map (.run, ·)) := by
  obtain ⟨lead, trail, -, -, htrail, heq⟩ := exists_runtimeInstall_eq flavor
  rw [AllClosed]
  cases packages with
  | nil => exact fun step hstep ↦ by cases hstep
  | cons package rest =>
    rw [heq _ (List.cons_ne_nil _ _)]
    exact List.forall_mem_singleton.mpr (htrail.append _)

private theorem isClosed_baseImage (c : Config) : IsClosed (baseImage c) := by
  have htag : IsClosed c.flavor.imageTag := by
    cases c.flavor
    · exact ⟨'m', rfl, by decide⟩
    · exact ⟨'e', rfl, by decide⟩
  exact htag.append _

private theorem allClosed_projectSteps (flavor : Flavor) : AllClosed (projectSteps flavor) := by
  have hdir : IsClosed projectDir := ⟨'r', rfl, by decide⟩
  have hcleanup : IsClosed cleanup := .append ⟨'e', rfl, by decide⟩ _
  simp only [AllClosed, projectSteps, List.forall_mem_cons]
  exact ⟨hdir.append _, hdir.append _, hcleanup.append _, fun step hstep ↦ by cases hstep⟩

private theorem allClosed_userSteps (flavor : Flavor) : AllClosed (userSteps flavor) := by
  have hcreate : IsClosed (Packages.createUser flavor) := by
    have hname : IsClosed Packages.userName := ⟨'t', rfl, by decide⟩
    cases flavor <;> exact hname.append _
  simp only [AllClosed, userSteps, List.forall_mem_cons]
  exact ⟨hcreate, .append ⟨'2', rfl, by decide⟩ _, .append ⟨'l', rfl, by decide⟩ _,
    .append ⟨'n', rfl, by decide⟩ _, fun step hstep ↦ by cases hstep⟩

private theorem allClosed_execStep (keyword : Keyword) (texts : List String) :
    AllClosed (execStep keyword texts) := by
  rw [AllClosed, execStep]
  split
  · exact fun step hstep ↦ by cases hstep
  · exact List.forall_mem_singleton.mpr (Json.isClosed_quoteAll texts)

private theorem allClosed_authorSteps (c : Config) : AllClosed (authorSteps c) := by
  rw [AllClosed, authorSteps]
  split
  · exact fun step hstep ↦ by cases hstep
  · exact List.forall_mem_singleton.mpr (isClosed_assignment _ _)

private theorem allClosed_builderLayout (hinstall : installDependencies c = .ok install) :
    AllClosed (builderLayout c install) := by
  have hfrom : IsClosed (baseImage c ++ " AS builder") := .append ⟨'r', rfl, by decide⟩ _
  have hdeps := allClosed_buildInstall c.flavor c.buildDeps
  have henv : AllClosed ((builderEnv.merge c.env).entries.map
      fun (key, value) ↦ (.env, assignment key value)) := by
    rw [AllClosed, List.forall_mem_map]
    exact fun entry _ ↦ isClosed_assignment entry.1 entry.2
  have hfiles := allClosed_fileSteps c.copyFilesBeforeBuild c.addFilesBeforeBuild
  have hinstalled := allClosed_install hinstall
  have hproject := allClosed_projectSteps c.flavor
  simp only [AllClosed] at *
  simp only [builderLayout, List.forall_mem_append, List.forall_mem_singleton]
  exact ⟨⟨⟨⟨⟨hfrom, hdeps⟩, henv⟩, hfiles⟩, hinstalled⟩, hproject⟩

private theorem allClosed_runtimeLayout {env labels : List Step}
    (henv : envSteps c params = .ok env)
    (hlabels : labelSteps c params = .ok labels) : AllClosed (runtimeLayout c env labels) := by
  have hfrom := isClosed_baseImage c
  have hdeps := allClosed_runtimeInstall c.flavor c.systemDeps
  have huser := allClosed_userSteps c.flavor
  have hfiles := allClosed_fileSteps c.copyFiles c.addFiles
  have hexec := allClosed_execStep
  have henv := allClosed_assignments henv
  have hlabels := allClosed_assignments hlabels
  have hauthors := allClosed_authorSteps c
  simp only [AllClosed] at *
  simp only [runtimeLayout, List.forall_mem_append, List.forall_mem_singleton]
  exact ⟨⟨⟨⟨⟨⟨⟨⟨hfrom, hdeps⟩, huser⟩, hfiles⟩, hexec _ _⟩, hexec _ _⟩, henv⟩, hlabels⟩, hauthors⟩

/-! ## Scripts -/

/-- An instruction stays on one line when its arguments do. -/
theorem isOneLine_render (i : Instruction) : IsOneLine i.render ↔ IsOneLine i.args := by
  have hkeyword : IsOneLine i.keyword.name := by
    cases i.keyword <;> decide
  rw [Instruction.render, Text.isOneLine_append, Text.isOneLine_append]
  exact and_iff_right ⟨hkeyword, by decide⟩

private theorem forall_mem_inStage_isOneLine {stage : Stage} :
    (∀ i ∈ inStage stage steps, IsOneLine i.render) ↔ AllOneLine steps := by
  rw [inStage, List.forall_mem_map]
  simp only [isOneLine_render]
  rfl

private theorem forall_mem_inStage_isClosed {stage : Stage} (h : AllClosed steps) :
    ∀ i ∈ inStage stage steps, IsClosed i.render := by
  rw [inStage, List.forall_mem_map]
  exact fun step hstep ↦ (h step hstep).append _

/-- A compiled script has one line for each instruction, in order, and an empty one between the
stages, and no line ends in a backslash. These lines are those of its text, and no instruction
has a line feed, exactly when none of the texts that the stages take as they are has one. -/
theorem splitOn_render_iff (hc : Config.resolve m requested ctx = .ok c)
    (hs : compile c params = .ok script) :
    script.lines = (script.ofStage .builder).map Instruction.render ++
        "" :: (script.ofStage .runtime).map Instruction.render ∧
      script = script.ofStage .builder ++ script.ofStage .runtime ∧
      (∀ i ∈ script, ∃ char, i.render.toList.getLast? = some char ∧ char ≠ '\\') ∧
      ((Text.splitOn '\n' script.render = script.lines ++ [""] ∧
          ∀ i ∈ script, '\n' ∉ i.render.toList) ↔
        ∀ text ∈ builderTexts c ++ runtimeTexts c params, '\n' ∉ text.toList) := by
  obtain ⟨t, -, ht⟩ := Config.resolve_eq_ok_iff.mp hc
  obtain ⟨install, env, labels, hinstall, henv, hlabels, rfl⟩ := compile_eq_ok_iff.mp hs
  obtain ⟨hbuilder, hruntime⟩ :=
    ofStage_inStage (builderLayout c install) (runtimeLayout c env labels)
  have hlines := @lines_inStage (builderLayout c install) (runtimeLayout c env labels)
    (List.cons_ne_nil _ _) (List.cons_ne_nil _ _)
  have htexts : (∀ i ∈ layout c install env labels, IsOneLine i.render) ↔
      ∀ text ∈ builderTexts c ++ runtimeTexts c params, IsOneLine text := by
    rw [layout, List.forall_mem_append, List.forall_mem_append, forall_mem_inStage_isOneLine,
      forall_mem_inStage_isOneLine, allOneLine_builderLayout ht hinstall,
      allOneLine_runtimeLayout ht henv hlabels]
  have hrender : Text.splitOn '\n' (layout c install env labels).render =
      (layout c install env labels).lines ++ [""] ↔
        ∀ i ∈ layout c install env labels, IsOneLine i.render := by
    have hempty : IsOneLine "" := by decide
    rw [render, Text.splitOn_join_iff, layout, hlines, List.forall_mem_append,
      List.forall_mem_cons, and_iff_right hempty, List.forall_mem_map, List.forall_mem_map,
      List.forall_mem_append]
  refine ⟨?_, ?_, ?_, ?_⟩
  · rw [layout, hbuilder, hruntime, hlines]
  · rw [layout, hbuilder, hruntime]
  · rw [layout, List.forall_mem_append]
    exact ⟨forall_mem_inStage_isClosed (allClosed_builderLayout hinstall),
      forall_mem_inStage_isClosed (allClosed_runtimeLayout henv hlabels)⟩
  · rw [hrender]
    exact (and_self_iff).trans htexts

/-- A value of the environment with a line feed in it. -/
theorem splitOn_render_iff_environment :
    let m : Manifest :=
      { project := { name := "a" }
        targets := .ofList [("t", { env := .ofList [("A", "x\nUSER root")] })] }
    let c : Config :=
      { name := "a"
        target := some "t"
        pythonVersion := "3.13"
        env := .ofList [("A", "x\nUSER root")] }
    Config.resolve m none .none = .ok c ∧
      ∃ script, compile c .empty = .ok script ∧
        script.lines = (script.ofStage .builder).map Instruction.render ++
            "" :: (script.ofStage .runtime).map Instruction.render ∧
          script = script.ofStage .builder ++ script.ofStage .runtime ∧
          (∀ i ∈ script, ∃ char, i.render.toList.getLast? = some char ∧ char ≠ '\\') ∧
          ((Text.splitOn '\n' script.render = script.lines ++ [""] ∧
              ∀ i ∈ script, '\n' ∉ i.render.toList) ↔
            ∀ text ∈ builderTexts c ++ runtimeTexts c .empty, '\n' ∉ text.toList) := by
  intro m c
  have hc : Config.resolve m none .none = .ok c := by decide +kernel
  have hsome : (compile c .empty).toOption.isSome = true := by decide +kernel
  refine ⟨hc, ?_⟩
  obtain ⟨script, hs⟩ := exists_eq_ok_of_isSome hsome
  exact ⟨script, hs, splitOn_render_iff hc hs⟩

/-- A value of the environment brings its line feed into an instruction of the builder. -/
theorem mem_compile_environment :
    let m : Manifest :=
      { project := { name := "a" }
        targets := .ofList [("t", { env := .ofList [("A", "x\nUSER root")] })] }
    let i : Instruction := ⟨.builder, .env, "A=\"x\nUSER root\""⟩
    ∃ c script, Config.resolve m none .none = .ok c ∧ compile c .empty = .ok script ∧
      i ∈ script ∧ '\n' ∈ i.render.toList ∧
      Text.splitOn '\n' script.render ≠ script.lines ++ [""] := by
  intro m i
  let c : Config :=
    { name := "a"
      target := some "t"
      pythonVersion := "3.13"
      env := .ofList [("A", "x\nUSER root")] }
  have hc : Config.resolve m none .none = .ok c := by decide +kernel
  have hmem : (compile c .empty).toOption.any (·.contains i) = true := by decide +kernel
  have hbreak : '\n' ∈ i.render.toList := by decide
  cases hs : compile c .empty with
  | error e =>
    rw [hs] at hmem
    cases hmem
  | ok script =>
    rw [hs] at hmem
    have hi : i ∈ script := List.contains_iff_mem.mp hmem
    refine ⟨c, script, hc, hs, hi, hbreak, fun heq ↦ ?_⟩
    exact Text.splitOn_join_iff.mp heq i.render (render_mem_lines hi) hbreak

end ContainerBuild.Script
