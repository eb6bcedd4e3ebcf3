import ContainerBuild.Config.Resolve
import ContainerBuild.Proofs.Script.Labels
import ContainerBuild.Proofs.Script.Outline
import ContainerBuild.Text.Split

/-!
# Keys of assignments

An instruction for the environment and one for a label begin with a key. Behind it the value stands
in quotes, but the key itself stands there as it is. So a key is read in its instruction exactly
when it has no equals sign, no white space and no quote in it. The default keys have none of them;
a key of a configuration is any text.
-/

namespace ContainerBuild.Script

variable {c : Config} {params : Dict String} {s : Script} {keys : List String}

/-- Whether a character is neither white space nor a quote. -/
def isKeyChar (char : Char) : Bool := !Text.isBlank char && char ≠ '"' && char ≠ '\''

/-- The key that is read in arguments: what stands in front of the first equals sign, unless there
is white space or a quote in it. -/
def keyOf? (args : String) : Option String :=
  ((Text.splitOnce '=' args).map Prod.fst).filter (·.toList.all isKeyChar)

/-- The keys that are read in the instructions of a script, one for each. -/
def readKeys (s : Script) : List (Option String) := s.map (keyOf? ·.args)

/-- Whether a key is read as it is wherever it is assigned a value. -/
def IsBareKey (key : String) : Prop := '=' ∉ key.toList ∧ key.toList.all isKeyChar = true

instance : DecidablePred IsBareKey := fun key ↦
  inferInstanceAs (Decidable ('=' ∉ key.toList ∧ key.toList.all isKeyChar = true))

/-! ## Reading assignments -/

private theorem keyOf?_assignment_iff (key value : String) :
    keyOf? (assignment key value) = some key ↔ IsBareKey key := by
  simp only [keyOf?, Option.filter_eq_some_iff, Option.map_eq_some_iff]
  refine and_congr_left fun _ ↦ ?_
  constructor
  · rintro ⟨⟨front, behind⟩, hsplit, rfl⟩
    exact (Text.splitOnce_eq_some_iff.mp hsplit).1
  · intro hequals
    refine ⟨(key, Quote.value value), Text.splitOnce_eq_some_iff.mpr ⟨hequals, ?_⟩, rfl⟩
    simp [assignment]

private theorem readKeys_inStage_iff {keyword : Keyword} {steps : List Step} (stage : Stage)
    (h : Follows (keys.map (.assign keyword)) steps) :
    readKeys (inStage stage steps) = keys.map some ↔ ∀ key ∈ keys, IsBareKey key := by
  rw [Follows, List.forall₂_map_left_iff] at h
  induction h with
  | nil => exact iff_of_true rfl (List.forall_mem_nil _)
  | @cons key step keys steps hstep _ ih =>
    obtain ⟨-, value, hargs⟩ := hstep
    have hcons : readKeys (inStage stage (step :: steps)) =
        keyOf? step.2 :: readKeys (inStage stage steps) := rfl
    rw [hcons, hargs, List.map_cons, List.cons.injEq, List.forall_mem_cons, ih,
      keyOf?_assignment_iff]

/-! ## The instructions that assign -/

/-- Whether instructions with a keyword assign values to keys. -/
def assigns (keyword : Keyword) : Bool := keyword = .env || keyword = .label

/-- The steps that assign values to keys. -/
def assigning (steps : List Step) : List Step := steps.filter fun step ↦ assigns step.1

/-- The instruction of the runtime stage that assigns a search path. -/
def pathStep : Step := (.env, "PATH=$PATH:" ++ Packages.userHome ++ "/.local/bin")

section Assigning

variable {keyword : Keyword} {steps install env labels : List Step}

/-- The assigning steps of two parts. -/
theorem assigning_append (steps others : List Step) :
    assigning (steps ++ others) = assigning steps ++ assigning others := List.filter_append ..

/-- Steps with other keywords assign nothing. -/
theorem assigning_eq_nil (h : ∀ step ∈ steps, assigns step.1 = false) : assigning steps = [] := by
  rw [assigning, List.filter_eq_nil_iff]
  intro step hstep
  rw [h step hstep]
  exact Bool.false_ne_true

/-- Steps with an assigning keyword all assign. -/
theorem assigning_eq_self (hkeyword : assigns keyword = true)
    (h : ∀ step ∈ steps, step.1 = keyword) : assigning steps = steps := by
  rw [assigning, List.filter_eq_self]
  intro step hstep
  rw [h step hstep, hkeyword]

/-- Packages are not assigned. -/
theorem assigning_run (command : Option String) :
    assigning (command.toList.map (.run, ·)) = [] := by
  refine assigning_eq_nil fun step hstep ↦ ?_
  rw [keyword_of_mem_run hstep]
  rfl

/-- Files are not assigned. -/
theorem assigning_fileSteps (copies adds : List FileSpec) :
    assigning (fileSteps copies adds) = [] := by
  refine assigning_eq_nil fun step hstep ↦ ?_
  rcases keyword_of_mem_fileSteps hstep with h | h <;> (rw [h]; rfl)

private theorem assigning_execStep (h : assigns keyword = false) (texts : List String) :
    assigning (execStep keyword texts) = [] := by
  refine assigning_eq_nil fun step hstep ↦ ?_
  rw [keyword_of_mem_execStep hstep, h]

private theorem assigning_builderLayout (h : installDependencies c = .ok install) :
    assigning (builderLayout c install) = (builderEnv.merge c.env).entries.map
      fun (key, value) ↦ (.env, assignment key value) := by
  have hfrom : assigning [(.from, baseImage c ++ " AS builder")] = [] := rfl
  have hproject : assigning (projectSteps c.flavor) = [] := rfl
  have hinstall : assigning install = [] := by
    refine assigning_eq_nil fun step hstep ↦ ?_
    rw [keyword_of_mem_install h hstep]
    rfl
  have henv : assigning ((builderEnv.merge c.env).entries.map
      fun (key, value) ↦ (.env, assignment key value)) = (builderEnv.merge c.env).entries.map
        fun (key, value) ↦ (.env, assignment key value) :=
    assigning_eq_self rfl (List.forall_mem_map.mpr fun _ _ ↦ rfl)
  simp only [builderLayout, assigning_append, hfrom, assigning_run, henv, assigning_fileSteps,
    hinstall, hproject, List.nil_append, List.append_nil]

private theorem assigning_runtimeLayout (henv : ∀ step ∈ env, step.1 = .env)
    (hlabels : ∀ step ∈ labels, step.1 = .label) :
    assigning (runtimeLayout c env labels) = (pathStep :: env) ++ (labels ++ authorSteps c) := by
  have hfrom : assigning [(.from, baseImage c)] = [] := rfl
  have huser : assigning (userSteps c.flavor) = [pathStep] := rfl
  have hauthors : assigning (authorSteps c) = authorSteps c :=
    assigning_eq_self rfl fun _ ↦ keyword_of_mem_authorSteps
  rw [runtimeLayout]
  simp only [assigning_append, hfrom, assigning_run, huser, assigning_fileSteps,
    @assigning_execStep .entrypoint rfl, @assigning_execStep .cmd rfl,
    assigning_eq_self rfl henv, assigning_eq_self rfl hlabels, hauthors]
  simp only [List.nil_append, List.append_nil, List.append_assoc, List.cons_append]

private theorem ofKeyword_inStage_assigning (stage : Stage) (h : assigns keyword = true) :
    (inStage stage (assigning steps)).ofKeyword keyword =
      (inStage stage steps).ofKeyword keyword := by
  simp only [ofKeyword, inStage, assigning, List.filter_map, List.filter_filter]
  refine congrArg _ (List.filter_congr fun step _ ↦ ?_)
  simp +contextual [h]

private theorem inStage_append (stage : Stage) (steps others : List Step) :
    inStage stage (steps ++ others) = inStage stage steps ++ inStage stage others :=
  List.map_append

private theorem ofKeyword_inStage_of_eq {other : Keyword} (stage : Stage)
    (h : ∀ step ∈ steps, step.1 = other) :
    (inStage stage steps).ofKeyword keyword =
      if other = keyword then inStage stage steps else [] := by
  split
  · next heq =>
    rw [ofKeyword, List.filter_eq_self]
    intro i hi
    obtain ⟨step, hstep, rfl⟩ := List.mem_map.mp hi
    simpa [heq] using h step hstep
  · next hne => exact ofKeyword_inStage_eq_nil fun step hstep ↦ h step hstep ▸ hne

end Assigning

/-! ## Scripts -/

private theorem keyword_of_follows {keyword : Keyword} {steps : List Step}
    (h : Follows (keys.map (.assign keyword)) steps) : ∀ step ∈ steps, step.1 = keyword := by
  rw [Follows, List.forall₂_map_left_iff] at h
  induction h with
  | nil => exact List.forall_mem_nil _
  | cons hstep _ ih => exact List.forall_mem_cons.mpr ⟨hstep.1, ih⟩

private theorem follows_labelKeys {labels : List Step} (h : labelSteps c params = .ok labels) :
    Follows ((labelKeys c).map (.assign .label)) (labels ++ authorSteps c) := by
  rw [labelSteps, assignments_eq_ok_iff] at h
  have hauthors : (if c.authors = [] then [] else [authorsLabel]).map (Heading.assign .label) =
      headingIf (c.authors ≠ []) (.assign .label authorsLabel) := by
    by_cases hnone : c.authors = [] <;> simp [headingIf, hnone]
  rw [labelKeys, List.map_append, hauthors]
  exact (Follows.of_isAssigned h).append (.authors c)

private theorem exists_assignments_of_compile (h : compile c params = .ok s) :
    ∃ builder env labels : List Step,
      (s.ofStage .builder).ofKeyword .env = inStage .builder builder ∧
      Follows ((builderEnv.merge c.env).keys.map (.assign .env)) builder ∧
      (s.ofStage .runtime).ofKeyword .env = inStage .runtime (pathStep :: env) ∧
      Follows (c.env.keys.map (.assign .env)) env ∧
      s.ofKeyword .label = inStage .runtime labels ∧
      Follows ((labelKeys c).map (.assign .label)) labels := by
  obtain ⟨install, env, labels, hinstall, henv, hlabels, rfl⟩ := compile_eq_ok_iff.mp h
  have hstages := ofStage_inStage (builderLayout c install) (runtimeLayout c env labels)
  have hlabeled := follows_labelKeys hlabels
  rw [envSteps, assignments_eq_ok_iff] at henv
  rw [labelSteps, assignments_eq_ok_iff] at hlabels
  -- each part has one keyword
  have hbuilder := keyword_of_follows (.builderEnv (builderEnv.merge c.env))
  have hpath : ∀ step ∈ pathStep :: env, step.1 = .env :=
    List.forall_mem_cons.mpr ⟨rfl, fun _ ↦ keyword_of_isAssigned henv⟩
  have hlabel := keyword_of_follows hlabeled
  have hbuilt := assigning_builderLayout hinstall
  have hrun : assigning (runtimeLayout c env labels) =
      (pathStep :: env) ++ (labels ++ authorSteps c) :=
    assigning_runtimeLayout (fun _ ↦ keyword_of_isAssigned henv)
      fun _ ↦ keyword_of_isAssigned hlabels
  refine ⟨_, env, labels ++ authorSteps c, ?_, .builderEnv _, ?_, .of_isAssigned henv, ?_, hlabeled⟩
  · rw [layout, hstages.1, ← ofKeyword_inStage_assigning _ rfl, hbuilt,
      ofKeyword_inStage_of_eq _ hbuilder, if_pos rfl]
  · rw [layout, hstages.2, ← ofKeyword_inStage_assigning _ rfl, hrun, inStage_append,
      ofKeyword_append, ofKeyword_inStage_of_eq _ hpath, if_pos rfl,
      ofKeyword_inStage_of_eq _ hlabel, if_neg (by decide), List.append_nil]
  · rw [layout, ofKeyword_append, ← ofKeyword_inStage_assigning .builder rfl, hbuilt,
      ofKeyword_inStage_of_eq _ hbuilder, if_neg (by decide), List.nil_append,
      ← ofKeyword_inStage_assigning .runtime rfl, hrun, inStage_append, ofKeyword_append,
      ofKeyword_inStage_of_eq _ hpath, if_neg (by decide), List.nil_append,
      ofKeyword_inStage_of_eq _ hlabel, if_pos rfl]

/-- Among bare default keys, all keys are bare when those that are put in are. -/
theorem forall_isBareKey_merge {defaults : Dict String} (h : ∀ key ∈ defaults.keys, IsBareKey key)
    (d : Dict String) :
    (∀ key ∈ (defaults.merge d).keys, IsBareKey key) ↔ ∀ key ∈ d.keys, IsBareKey key := by
  simp only [Dict.mem_keys_merge]
  exact ⟨fun hall key hkey ↦ hall key (.inl hkey), fun hall key hkey ↦ hkey.elim (hall key) (h key)⟩

private theorem forall_isBareKey_labelKeys (c : Config) :
    (∀ key ∈ labelKeys c, IsBareKey key) ↔ ∀ key ∈ c.labels.keys, IsBareKey key := by
  have hauthors : ∀ key ∈ if c.authors = [] then [] else [authorsLabel], IsBareKey key := by
    have hlabel : IsBareKey authorsLabel := by decide
    split
    · exact List.forall_mem_nil _
    · exact List.forall_mem_singleton.mpr hlabel
  rw [labelKeys, List.forall_mem_append, and_iff_left hauthors]
  exact forall_isBareKey_merge (by decide) c.labels

/-- In a script that is compiled the environment is read key by key exactly when all keys that the
configuration has for it are bare: in the builder with the default keys among them, and in the
runtime stage behind the search path. The keys of the labels are read exactly when those of the
configuration are bare, with the default ones among them and that of the authors behind. The keys
of a dictionary are read in ascending order and each of them once, since it has them so. -/
theorem readKeys_of_compile (h : compile c params = .ok s) :
    (readKeys ((s.ofStage .builder).ofKeyword .env) = (builderEnv.merge c.env).keys.map some ↔
        ∀ key ∈ c.env.keys, IsBareKey key) ∧
      (readKeys ((s.ofStage .runtime).ofKeyword .env) = ("PATH" :: c.env.keys).map some ↔
        ∀ key ∈ c.env.keys, IsBareKey key) ∧
      (readKeys (s.ofKeyword .label) = (labelKeys c).map some ↔
        ∀ key ∈ c.labels.keys, IsBareKey key) := by
  obtain ⟨builder, env, labels, hbuilder, hbuilt, hruntime, henv, hlabel, hlabeled⟩ :=
    exists_assignments_of_compile h
  refine ⟨?_, ?_, ?_⟩
  · rw [hbuilder, readKeys_inStage_iff _ hbuilt]
    exact forall_isBareKey_merge (by decide) c.env
  · have hpath : readKeys (inStage .runtime (pathStep :: env)) =
        some "PATH" :: readKeys (inStage .runtime env) := rfl
    rw [hruntime, hpath, List.map_cons, List.cons_inj_right, readKeys_inStage_iff _ henv]
  · rw [hlabel, readKeys_inStage_iff _ hlabeled, forall_isBareKey_labelKeys]

/-- Values with equals signs, blanks and quotes in them do not hide the keys. -/
theorem readKeys_of_compile_service :
    let c : Config :=
      { name := "app"
        pythonVersion := "3.13"
        authors := [⟨"Ada", none⟩]
        env := .ofList [("OPTS", "a=b 'c'"), ("PIP_USER", "0")]
        labels := .ofList [("team", "x=\"y\"")] }
    ∃ s, compile c .empty = .ok s ∧
      readKeys ((s.ofStage .builder).ofKeyword .env) =
        ["OPTS", "PIP_DISABLE_PIP_VERSION_CHECK", "PIP_NO_WARN_SCRIPT_LOCATION", "PIP_USER",
          "PYTHONPYCACHEPREFIX"].map some ∧
      readKeys ((s.ofStage .runtime).ofKeyword .env) = ["PATH", "OPTS", "PIP_USER"].map some ∧
      readKeys (s.ofKeyword .label) =
        ["moby.buildkit.frontend", "org.opencontainers.image.description", "pyimage.version",
          "team", "org.opencontainers.image.authors"].map some := by
  intro c
  have hsome : (compile c .empty).toOption.isSome = true := by decide +kernel
  obtain ⟨s, hs⟩ := exists_eq_ok_of_isSome hsome
  obtain ⟨hbuilder, hruntime, hlabels⟩ := readKeys_of_compile hs
  have henv : ∀ key ∈ c.env.keys, IsBareKey key := by decide +kernel
  have hlabel : ∀ key ∈ c.labels.keys, IsBareKey key := by decide +kernel
  exact ⟨s, hs, hbuilder.mpr henv, hruntime.mpr henv, hlabels.mpr hlabel⟩

/-- An equals sign in a key of the environment ends the key that is read, in both stages. -/
theorem readKeys_ne_of_equals :
    let m : Manifest :=
      { project := { name := "a" }
        targets := .ofList [("t", { env := .ofList [("A=B", "x")] })] }
    ∃ c s, Config.resolve m none .none = .ok c ∧ compile c .empty = .ok s ∧
      c.env.keys = ["A=B"] ∧
      readKeys ((s.ofStage .builder).ofKeyword .env) ≠ (builderEnv.merge c.env).keys.map some ∧
      readKeys ((s.ofStage .runtime).ofKeyword .env) = ["PATH", "A"].map some := by
  intro m
  let c : Config :=
    { name := "a"
      target := some "t"
      pythonVersion := "3.13"
      env := .ofList [("A=B", "x")] }
  have hc : Config.resolve m none .none = .ok c := by decide +kernel
  have hread : ((compile c .empty).toOption.map fun s ↦
      (readKeys ((s.ofStage .builder).ofKeyword .env),
        readKeys ((s.ofStage .runtime).ofKeyword .env))) =
      some (["A", "PIP_DISABLE_PIP_VERSION_CHECK", "PIP_NO_WARN_SCRIPT_LOCATION", "PIP_USER",
        "PYTHONPYCACHEPREFIX"].map some, ["PATH", "A"].map some) := by decide +kernel
  have hkeys : ["A", "PIP_DISABLE_PIP_VERSION_CHECK", "PIP_NO_WARN_SCRIPT_LOCATION", "PIP_USER",
      "PYTHONPYCACHEPREFIX"].map some ≠ (builderEnv.merge c.env).keys.map some := by decide
  cases hs : compile c .empty with
  | error e =>
    rw [hs] at hread
    cases hread
  | ok s =>
    rw [hs] at hread
    obtain ⟨hbuilder, hruntime⟩ := Prod.mk.inj (Option.some.inj hread)
    exact ⟨c, s, hc, hs, by decide, hbuilder ▸ hkeys, hruntime⟩

end ContainerBuild.Script
