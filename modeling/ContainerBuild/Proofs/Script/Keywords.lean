import ContainerBuild.Proofs.Script.Parameters

/-!
# Keywords of the fixed instructions

Each stage begins with its base image, and none of the instructions behind it names another one.
Labels are set behind the fixed instructions of the runtime stage only.
-/

namespace ContainerBuild.Script

variable {c : Config} {params : Dict String} {keyword : Keyword} {install : List Step} {step : Step}

/-- The instructions of a script with a keyword. -/
def ofKeyword (s : Script) (keyword : Keyword) : Script := s.filter (·.keyword = keyword)

/-- The instructions of two scripts with a keyword. -/
@[simp] theorem ofKeyword_append (s s' : Script) (keyword : Keyword) :
    ofKeyword (s ++ s') keyword = s.ofKeyword keyword ++ s'.ofKeyword keyword :=
  List.filter_append ..

/-- Among instructions with other keywords there are none with this one. -/
theorem ofKeyword_inStage_eq_nil {stage : Stage} {steps : List Step}
    (h : ∀ step ∈ steps, step.1 ≠ keyword) : (inStage stage steps).ofKeyword keyword = [] := by
  rw [ofKeyword, List.filter_eq_nil_iff]
  intro i hi
  obtain ⟨step, hstep, rfl⟩ := List.mem_map.mp hi
  simpa using h step hstep

/-! ## Part by part -/

/-- Files are copied or fetched. -/
theorem keyword_of_mem_fileSteps {copies adds : List FileSpec} (h : step ∈ fileSteps copies adds) :
    step.1 = .copy ∨ step.1 = .add := by
  rcases List.mem_append.mp h with h | h
  · obtain ⟨f, -, rfl⟩ := List.mem_map.mp h
    exact .inl rfl
  · obtain ⟨f, -, rfl⟩ := List.mem_map.mp h
    exact .inr rfl

/-- A list of texts is written behind its keyword. -/
theorem keyword_of_mem_execStep {texts : List String} (h : step ∈ execStep keyword texts) :
    step.1 = keyword := by
  rw [execStep] at h
  split at h
  · cases h
  · rw [List.mem_singleton.mp h]

/-- Packages are installed by commands. -/
theorem keyword_of_mem_run {commands : Option String}
    (h : step ∈ commands.toList.map (Keyword.run, ·)) : step.1 = .run := by
  obtain ⟨command, -, rfl⟩ := List.mem_map.mp h
  rfl

/-- Dependencies are installed by commands. -/
theorem keyword_of_mem_install (hinstall : installDependencies c = .ok install)
    (h : step ∈ install) : step.1 = .run := by
  rw [installDependencies] at hinstall
  split at hinstall
  · cases hinstall
    cases h
  · cases ho : indexOptions c.label c.indices with
    | error e =>
      rw [ho] at hinstall
      cases hinstall
    | ok options =>
      rw [ho] at hinstall
      cases hinstall
      rw [List.mem_singleton.mp h]

/-- What stands for templates has one keyword. -/
theorem keyword_of_isAssigned {entries : List (String × String)} {steps : List Step}
    (h : List.Forall₂ (IsAssigned keyword params) entries steps) (hstep : step ∈ steps) :
    step.1 = keyword := by
  have hmem := List.mem_map_of_mem (f := Prod.fst) hstep
  rw [map_keyword_of_isAssigned h] at hmem
  exact List.eq_of_mem_replicate hmem

/-- The authors are a label. -/
theorem keyword_of_mem_authorSteps (h : step ∈ authorSteps c) : step.1 = .label := by
  rw [authorSteps] at h
  split at h
  · cases h
  · rw [List.mem_singleton.mp h]

/-! ## Stage by stage -/

private theorem exists_builderLayout_eq (hinstall : installDependencies c = .ok install) :
    ∃ rest, builderLayout c install = (.from, baseImage c ++ " AS builder") :: rest ∧
      ∀ step ∈ rest, step.1 ≠ .from := by
  refine ⟨(builderLayout c install).tail, rfl, ?_⟩
  simp only [builderLayout, List.cons_append, List.nil_append, List.tail_cons,
    List.forall_mem_append]
  refine ⟨⟨⟨⟨?_, ?_⟩, ?_⟩, ?_⟩, ?_⟩
  · intro step hstep
    rw [keyword_of_mem_run hstep]
    decide
  · intro step hstep
    obtain ⟨entry, -, rfl⟩ := List.mem_map.mp hstep
    show Keyword.env ≠ .from
    decide
  · intro step hstep
    rcases keyword_of_mem_fileSteps hstep with h | h <;> (rw [h]; decide)
  · intro step hstep
    rw [keyword_of_mem_install hinstall hstep]
    decide
  · simp [projectSteps]

/-- The runtime stage begins with its base image. Of the fixed instructions behind it none names
another one, and none sets a label. -/
theorem exists_runtimeFront_eq (c : Config) :
    ∃ rest, runtimeFront c = (.from, baseImage c) :: rest ∧
      ∀ step ∈ rest, step.1 ≠ .from ∧ step.1 ≠ .label := by
  refine ⟨(runtimeFront c).tail, rfl, ?_⟩
  simp only [runtimeFront, List.cons_append, List.nil_append, List.tail_cons,
    List.forall_mem_append]
  refine ⟨⟨⟨⟨?_, ?_⟩, ?_⟩, ?_⟩, ?_⟩
  · intro step hstep
    rw [keyword_of_mem_run hstep]
    decide
  · simp [userSteps]
  · intro step hstep
    rcases keyword_of_mem_fileSteps hstep with h | h <;> (rw [h]; decide)
  · intro step hstep
    rw [keyword_of_mem_execStep hstep]
    decide
  · intro step hstep
    rw [keyword_of_mem_execStep hstep]
    decide

/-- A compiled script names two base images, one at the beginning of each stage. -/
theorem ofKeyword_from_of_compile {s : Script} (h : compile c params = .ok s) :
    s.ofKeyword .from =
      [⟨.builder, .from, baseImage c ++ " AS builder"⟩, ⟨.runtime, .from, baseImage c⟩] := by
  obtain ⟨install, env, labels, hinstall, henv, hlabels, rfl⟩ := compile_eq_ok_iff.mp h
  rw [envSteps, assignments_eq_ok_iff] at henv
  rw [labelSteps, assignments_eq_ok_iff] at hlabels
  obtain ⟨builder, hbuilder, hother⟩ := exists_builderLayout_eq hinstall
  obtain ⟨runtime, hruntime, hother'⟩ := exists_runtimeFront_eq c
  have hbuilder' : (inStage .builder builder).ofKeyword .from = [] :=
    ofKeyword_inStage_eq_nil hother
  have hruntime' : (inStage .runtime runtime).ofKeyword .from = [] :=
    ofKeyword_inStage_eq_nil fun step hstep ↦ (hother' step hstep).1
  have htemplates : (inStage .runtime (env ++ labels)).ofKeyword .from = [] := by
    refine ofKeyword_inStage_eq_nil fun step hstep ↦ ?_
    rcases List.mem_append.mp hstep with hstep | hstep
    · rw [keyword_of_isAssigned henv hstep]
      decide
    · rw [keyword_of_isAssigned hlabels hstep]
      decide
  have hauthors : (inStage .runtime (authorSteps c)).ofKeyword .from = [] := by
    refine ofKeyword_inStage_eq_nil fun step hstep ↦ ?_
    rw [keyword_of_mem_authorSteps hstep]
    decide
  have hhead (stage : Stage) (args : String) (rest : List Step) :
      (inStage stage ((.from, args) :: rest)).ofKeyword .from =
        ⟨stage, .from, args⟩ :: (inStage stage rest).ofKeyword .from := rfl
  rw [layout_eq_templates, hbuilder, hruntime]
  simp only [ofKeyword_append, hhead, hbuilder', hruntime', htemplates, hauthors, List.append_nil,
    List.singleton_append]

end ContainerBuild.Script
