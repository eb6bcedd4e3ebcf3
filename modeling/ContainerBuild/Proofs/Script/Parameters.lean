import ContainerBuild.Proofs.Script.Layout

/-!
# Build parameters

Parameters are read nowhere but in the values of the runtime environment and of the labels, and
whether such a value is a template does not depend on them. So two compilations of one
configuration fail together, with one error, and otherwise give scripts that are told apart by
these values only.
-/

namespace ContainerBuild

/-- Two runs fail together, with one error. -/
def FailTogether {ε α β : Type} (x : Except ε α) (y : Except ε β) : Prop :=
  ∀ e, x = .error e ↔ y = .error e

namespace FailTogether

variable {ε α β γ δ : Type} {x : Except ε α} {y : Except ε β}

/-- A run fails together with itself. -/
theorem refl (x : Except ε α) : FailTogether x x := fun _ ↦ Iff.rfl

/-- Where one of two such runs succeeds, the other one does. -/
theorem exists_ok (h : FailTogether x y) {a : α} (hx : x = .ok a) : ∃ b, y = .ok b := by
  cases y with
  | ok b => exact ⟨b, rfl⟩
  | error e =>
    rw [(h e).mpr rfl] at hx
    cases hx

/-- What is made of the results does not make runs fail. -/
theorem map (h : FailTogether x y) (f : α → γ) (g : β → δ) :
    FailTogether (x.map f) (y.map g) := by
  cases x with
  | error e =>
    rw [(h e).mp rfl]
    intro e'
    simp [Except.map]
  | ok a =>
    obtain ⟨b, rfl⟩ := h.exists_ok rfl
    intro e'
    simp [Except.map]

/-- Runs one after the other fail together when the first ones do and the next ones do. -/
theorem bind (h : FailTogether x y) {f : α → Except ε γ} {g : β → Except ε δ}
    (hnext : ∀ a b, FailTogether (f a) (g b)) : FailTogether (x >>= f) (y >>= g) := by
  cases x with
  | error e =>
    rw [(h e).mp rfl]
    intro e'
    simp [Bind.bind, Except.bind]
  | ok a =>
    obtain ⟨b, rfl⟩ := h.exists_ok rfl
    exact hnext a b

end FailTogether

namespace Script

variable {c : Config} {label : String} {keyword : Keyword} {params : Dict String}
  {entries : List (String × String)} {steps : List Step}

private theorem failTogether_expand (template : String) (p q : Dict String) :
    FailTogether (Template.expand template p) (Template.expand template q) := by
  rw [Template.expand_eq, Template.expand_eq]
  exact (FailTogether.refl _).map _ _

private theorem failTogether_assignments (label : String) (keyword : Keyword)
    (field : String → TemplateField) (p q : Dict String) (entries : List (String × String)) :
    FailTogether (assignments label keyword field p entries)
      (assignments label keyword field q entries) := by
  induction entries with
  | nil => exact .refl _
  | cons entry rest ih =>
    obtain ⟨key, value⟩ := entry
    have hvalue := failTogether_expand value p q
    rw [assignments, assignments]
    cases hp : Template.expand value p with
    | error e =>
      rw [(hvalue e).mp hp]
      exact .refl _
    | ok text =>
      obtain ⟨text', hq⟩ := hvalue.exists_ok hp
      rw [hq]
      exact ih.map _ _

/-- Two compilations of a configuration fail together. -/
theorem failTogether_compile (c : Config) (p q : Dict String) :
    FailTogether (compile c p) (compile c q) := by
  have hruntime : FailTogether (runtimeSteps c p) (runtimeSteps c q) :=
    (failTogether_assignments _ _ _ _ _ _).bind fun _ _ ↦
      (failTogether_assignments _ _ _ _ _ _).bind fun _ _ ↦ fun _ ↦ by simp [pure, Except.pure]
  exact (FailTogether.refl _).bind fun _ _ ↦ (hruntime.map _ _).bind fun _ _ ↦ fun _ ↦ by
    simp [pure, Except.pure]

private theorem map_inStage (stage : Stage) (steps : List Step) :
    (inStage stage steps).map (fun i ↦ (i.stage, i.keyword)) =
      (steps.map Prod.fst).map (stage, ·) := by
  rw [inStage, List.map_map, List.map_map]
  rfl

/-- What stands for templates has one keyword, once for each template. -/
theorem map_keyword_of_isAssigned (h : List.Forall₂ (IsAssigned keyword params) entries steps) :
    steps.map Prod.fst = List.replicate entries.length keyword := by
  induction h with
  | nil => rfl
  | cons hstep _ ih =>
    obtain ⟨text, -, rfl⟩ := hstep
    rw [List.map_cons, ih]
    rfl

/-- Whatever two sets of parameters are, a configuration is compiled with both or with neither,
and then for the same reason. The two scripts have the same stages and keywords from first to
last and the same builder, and differ at most in what stands behind the equals sign in the
instructions for the environment of the configuration and for the labels. In particular, what
is compiled without parameters is compiled with any. -/
theorem compile_parameters (c : Config) (p q : Dict String) :
    (∀ e, compile c p = .error e ↔ compile c q = .error e) ∧
      (∀ script, compile c p = .ok script → ∃ script', compile c q = .ok script' ∧
        script'.length = script.length ∧
        script'.map (fun i ↦ (i.stage, i.keyword)) = script.map (fun i ↦ (i.stage, i.keyword)) ∧
        script'.ofStage .builder = script.ofStage .builder ∧
        ∃ before env env' labels labels' behind,
          script = before ++ inStage .runtime (env ++ labels) ++ behind ∧
          script' = before ++ inStage .runtime (env' ++ labels') ++ behind ∧
          List.Forall₂ (IsAssigned .env p) c.env.entries env ∧
          List.Forall₂ (IsAssigned .env q) c.env.entries env' ∧
          List.Forall₂ (IsAssigned .label p) (defaultLabels.merge c.labels).entries labels ∧
          List.Forall₂ (IsAssigned .label q) (defaultLabels.merge c.labels).entries labels') ∧
      ((∃ script, compile c .empty = .ok script) → ∃ script, compile c p = .ok script) := by
  refine ⟨failTogether_compile c p q, fun script h ↦ ?_,
    fun ⟨_, h⟩ ↦ (failTogether_compile c .empty p).exists_ok h⟩
  obtain ⟨script', h'⟩ := (failTogether_compile c p q).exists_ok h
  refine ⟨script', h', ?_⟩
  obtain ⟨install, env, labels, hinstall, henv, hlabels, rfl⟩ := compile_eq_ok_iff.mp h
  obtain ⟨install', env', labels', hinstall', henv', hlabels', rfl⟩ := compile_eq_ok_iff.mp h'
  obtain rfl : install = install' := Except.ok.inj (hinstall.symm.trans hinstall')
  rw [envSteps, assignments_eq_ok_iff] at henv henv'
  rw [labelSteps, assignments_eq_ok_iff] at hlabels hlabels'
  have hkeywords : (env' ++ labels').map Prod.fst = (env ++ labels).map Prod.fst := by
    simp only [List.map_append, map_keyword_of_isAssigned henv, map_keyword_of_isAssigned henv',
      map_keyword_of_isAssigned hlabels, map_keyword_of_isAssigned hlabels']
  have hsame : (inStage .runtime (env' ++ labels')).map (fun i ↦ (i.stage, i.keyword)) =
      (inStage .runtime (env ++ labels)).map (fun i ↦ (i.stage, i.keyword)) := by
    rw [map_inStage, map_inStage, hkeywords]
  refine ⟨?_, ?_, ?_, _, env, env', labels, labels', _, layout_eq_templates ..,
    layout_eq_templates .., henv, henv', hlabels, hlabels'⟩
  · have := congrArg List.length hsame
    simpa [layout_eq_templates] using this
  · rw [layout_eq_templates, layout_eq_templates]
    simp only [List.map_append, hsame]
  · rw [layout, layout, (ofStage_inStage _ _).1, (ofStage_inStage _ _).1]

end Script

end ContainerBuild
