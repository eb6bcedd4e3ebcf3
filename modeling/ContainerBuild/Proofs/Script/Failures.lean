import ContainerBuild.Proofs.Config.Resolved
import ContainerBuild.Proofs.Dict.Merge
import ContainerBuild.Proofs.Script.Layout

/-!
# Failures of the compiler

What has been resolved fails to compile in two ways only. A value of the environment or of the
labels may be no template. And an index may spell out a credential for a URL that cannot carry
one: resolving reads the URL, but leaves it to the compiler to put the credentials into it.
-/

namespace ContainerBuild

/-- The values of a configuration that are templates, with their fields. -/
def Config.templates (c : Config) : List (TemplateField × String) :=
  c.env.entries.map (fun (key, value) ↦ (.env key, value)) ++
    c.labels.entries.map (fun (key, value) ↦ (.label key, value))

namespace Url

variable {u v : Url} {text : String}

/-- A URL cannot carry credentials when it has no host, when the host is empty, or when it names
a file. -/
theorem canCarryCredentials_eq_false_iff :
    u.canCarryCredentials = false ↔
      u.host = none ∨ u.host = some (.name []) ∨ u.scheme = "file" := by
  cases hhost : u.host with
  | none => simp [canCarryCredentials, hhost]
  | some host => simp [canCarryCredentials, hhost, Host.isEmpty, or_iff_not_imp_left]

/-- A URL refuses a user name when it cannot carry credentials. -/
theorem withUsername?_eq_none_iff :
    u.withUsername? text = none ↔ u.canCarryCredentials = false := by
  rw [withUsername?]
  cases u.canCarryCredentials with
  | false => simp
  | true => simp [apply_ite (· = none)]

/-- A URL refuses a password when it cannot carry credentials. -/
theorem withPassword?_eq_none_iff :
    u.withPassword? text = none ↔ u.canCarryCredentials = false := by
  rw [withPassword?]
  cases u.canCarryCredentials with
  | false => simp
  | true => simp [apply_ite (· = none)]

private theorem canCarryCredentials_withUsername? (h : u.withUsername? text = some v) :
    v.canCarryCredentials = u.canCarryCredentials := by
  rw [withUsername?] at h
  split at h
  · cases h
  · split at h
    · rw [Option.some.inj h]
    · rw [← Option.some.inj h, canCarryCredentials, canCarryCredentials]

end Url

namespace PackageIndex

/-- One of the credentials of an index is a text that the manifest spells out. -/
def SpellsOut (i : PackageIndex) : Prop :=
  ∃ text, i.usernameCredential = some (.plain text) ∨ i.passwordCredential = some (.plain text)

/-- An index spells out a credential for a URL that can be read but cannot carry any. -/
def IsRefused (i : PackageIndex) : Prop :=
  i.SpellsOut ∧ ∃ u, Url.parse i.url = .ok u ∧
    (u.host = none ∨ u.host = some (.name []) ∨ u.scheme = "file")

end PackageIndex

namespace IndexOption

variable {i : PackageIndex} {u v : Url} {credential : Option Credential} {flaw : IndexFlaw}

private theorem getD_eq_error_iff {w : Option Url} :
    (w.map Except.ok).getD (.error IndexFlaw.noCredentials) = .error flaw ↔
      flaw = .noCredentials ∧ w = none := by
  cases w with
  | none => simp [eq_comm]
  | some w => simp

private theorem putUsername_eq_error_iff :
    putUsername u credential = .error flaw ↔
      flaw = .noCredentials ∧ u.canCarryCredentials = false ∧
        ∃ text, credential = some (.plain text) := by
  rw [putUsername.eq_def]
  split
  · rw [getD_eq_error_iff, Url.withUsername?_eq_none_iff]
    simp
  · next hplain =>
    refine iff_of_false (by simp) ?_
    rintro ⟨-, -, text, rfl⟩
    exact hplain text rfl

private theorem putPassword_eq_error_iff :
    putPassword u credential = .error flaw ↔
      flaw = .noCredentials ∧ u.canCarryCredentials = false ∧
        ∃ text, credential = some (.plain text) := by
  rw [putPassword.eq_def]
  split
  · rw [getD_eq_error_iff, Url.withPassword?_eq_none_iff]
    simp
  · next hplain =>
    refine iff_of_false (by simp) ?_
    rintro ⟨-, -, text, rfl⟩
    exact hplain text rfl

private theorem canCarryCredentials_putUsername (h : putUsername u credential = .ok v) :
    v.canCarryCredentials = u.canCarryCredentials := by
  rw [putUsername.eq_def] at h
  split at h
  · next name =>
    cases hput : u.withUsername? name with
    | none =>
      rw [hput] at h
      cases h
    | some w =>
      rw [hput] at h
      obtain rfl : w = v := Except.ok.inj h
      exact Url.canCarryCredentials_withUsername? hput
  · rw [Except.ok.inj h]

/-- Credentials are refused when one of them is spelled out and the URL cannot carry any. -/
theorem urlOf_eq_error_iff (hu : Url.parse i.url = .ok u) :
    urlOf i = .error flaw ↔
      flaw = .noCredentials ∧ u.canCarryCredentials = false ∧ i.SpellsOut := by
  have hspells : i.SpellsOut ↔ (∃ text, i.usernameCredential = some (.plain text)) ∨
      ∃ text, i.passwordCredential = some (.plain text) := exists_or
  rw [urlOf, hu, hspells]
  dsimp only
  cases hname : putUsername u i.usernameCredential with
  | error other =>
    obtain ⟨rfl, hcan, hplain⟩ := putUsername_eq_error_iff.mp hname
    rw [Except.error.injEq, eq_comm, and_iff_left ⟨hcan, .inl hplain⟩]
  | ok v =>
    -- The password meets a URL that carries what the given one does, and if that is nothing,
    -- there was no user name to be put into it.
    have hnone : u.canCarryCredentials = false →
        ¬ ∃ text, i.usernameCredential = some (.plain text) := by
      intro hcan hplain
      rw [putUsername_eq_error_iff.mpr ⟨rfl, hcan, hplain⟩] at hname
      cases hname
    dsimp only
    rw [putPassword_eq_error_iff, canCarryCredentials_putUsername hname]
    refine and_congr_right fun _ ↦ and_congr_right fun hcan ↦ ?_
    rw [or_iff_right (hnone hcan)]

/-- The option for an index whose URL can be read fails to be written when the index is
refused. -/
theorem render_eq_error_iff (h : ∃ u, Url.parse i.url = .ok u) :
    render i = .error flaw ↔ flaw = .noCredentials ∧ i.IsRefused := by
  obtain ⟨u, hu⟩ := h
  have hrefused : i.IsRefused ↔ u.canCarryCredentials = false ∧ i.SpellsOut := by
    rw [PackageIndex.IsRefused, Url.canCarryCredentials_eq_false_iff, and_comm, hu]
    simp
  rw [hrefused, ← urlOf_eq_error_iff hu, render]
  cases urlOf i <;> simp

end IndexOption

namespace Script

variable {m : Manifest} {requested : Option String} {ctx : Context} {c : Config}
  {params : Dict String} {label : String} {e : CompileError}

/-! ## Parts that are written item by item -/

private theorem eq_error_iff_exists {α β ε : Type} {f : List α → Except ε (List β)}
    {R : α → ε → Prop} (hnil : f [] = .ok [])
    (hcons : ∀ x rest e, f (x :: rest) = .error e ↔
      R x e ∨ (∀ e', ¬ R x e') ∧ f rest = .error e) {xs : List α} {e : ε} :
    f xs = .error e ↔ ∃ before x behind, xs = before ++ x :: behind ∧
      (∀ y ∈ before, ∀ e', ¬ R y e') ∧ R x e := by
  induction xs with
  | nil => simp [hnil]
  | cons x rest ih =>
    rw [hcons, ih]
    constructor
    · rintro (hx | ⟨hx, before, y, behind, rfl, hbefore, hy⟩)
      · exact ⟨[], x, rest, rfl, List.forall_mem_nil _, hx⟩
      · exact ⟨x :: before, y, behind, rfl, List.forall_mem_cons.mpr ⟨hx, hbefore⟩, hy⟩
    · rintro ⟨before, y, behind, heq, hbefore, hy⟩
      cases before with
      | nil =>
        obtain ⟨rfl, -⟩ := List.cons.inj heq
        exact .inl hy
      | cons z before =>
        obtain ⟨rfl, rfl⟩ := List.cons.inj heq
        obtain ⟨hz, hbefore⟩ := List.forall_mem_cons.mp hbefore
        exact .inr ⟨hz, before, y, behind, rfl, hbefore, hy⟩

/-- How an index fails: its option cannot be written. -/
def IndexFails (label : String) (i : PackageIndex) (e : CompileError) : Prop :=
  ∃ flaw, IndexOption.render i = .error flaw ∧ e = .indexUrl label i.url flaw

/-- How the value of a key fails: it is no template. -/
def TemplateFails (label : String) (field : String → TemplateField) (params : Dict String)
    (entry : String × String) (e : CompileError) : Prop :=
  ∃ flaw, Template.expand entry.2 params = .error flaw ∧
    e = .placeholder label (field entry.1) flaw

private theorem indexOptions_eq_error_iff {indices : List PackageIndex} :
    indexOptions label indices = .error e ↔ ∃ before i behind, indices = before ++ i :: behind ∧
      (∀ j ∈ before, ∀ e', ¬ IndexFails label j e') ∧ IndexFails label i e := by
  refine eq_error_iff_exists (f := indexOptions label) rfl fun i rest e ↦ ?_
  rw [indexOptions]
  cases hi : IndexOption.render i with
  | error flaw => simp [IndexFails, hi, eq_comm]
  | ok option => cases hr : indexOptions label rest <;> simp [IndexFails, hi, Except.map]

private theorem assignments_eq_error_iff {keyword : Keyword} {field : String → TemplateField}
    {entries : List (String × String)} :
    assignments label keyword field params entries = .error e ↔
      ∃ before entry behind, entries = before ++ entry :: behind ∧
        (∀ other ∈ before, ∀ e', ¬ TemplateFails label field params other e') ∧
          TemplateFails label field params entry e := by
  refine eq_error_iff_exists (f := assignments label keyword field params) rfl
    fun entry rest e ↦ ?_
  obtain ⟨key, value⟩ := entry
  rw [assignments]
  cases hv : Template.expand value params with
  | error flaw => simp [TemplateFails, hv, eq_comm]
  | ok text =>
    cases hr : assignments label keyword field params rest <;>
      simp [TemplateFails, hv, Except.map]

/-! ## Refused indices -/

private theorem indexFails_iff {i : PackageIndex} (h : ∃ u, Url.parse i.url = .ok u) :
    IndexFails label i e ↔ i.IsRefused ∧ e = .indexUrl label i.url .noCredentials := by
  simp only [IndexFails, IndexOption.render_eq_error_iff h]
  constructor
  · rintro ⟨flaw, ⟨rfl, hi⟩, he⟩
    exact ⟨hi, he⟩
  · rintro ⟨hi, he⟩
    exact ⟨_, ⟨rfl, hi⟩, he⟩

/-- An index is the first one that is refused. -/
def IsFirstRefused (indices : List PackageIndex) (i : PackageIndex) : Prop :=
  ∃ before behind, indices = before ++ i :: behind ∧ (∀ j ∈ before, ¬ j.IsRefused) ∧ i.IsRefused

private theorem exists_isFirstRefused_iff {indices : List PackageIndex} :
    (∃ i, IsFirstRefused indices i) ↔ ∃ i ∈ indices, i.IsRefused := by
  constructor
  · rintro ⟨i, before, behind, rfl, -, hi⟩
    exact ⟨i, List.mem_append_right _ List.mem_cons_self, hi⟩
  · rintro ⟨i, hmem, hi⟩
    induction indices with
    | nil => cases hmem
    | cons j rest ih =>
      by_cases hj : j.IsRefused
      · exact ⟨j, [], rest, rfl, List.forall_mem_nil _, hj⟩
      · have hrest : i ∈ rest := (List.mem_cons.mp hmem).resolve_left fun he ↦ hj (he ▸ hi)
        obtain ⟨first, before, behind, rfl, hbefore, hfirst⟩ := ih hrest
        exact ⟨first, j :: before, behind, rfl, List.forall_mem_cons.mpr ⟨hj, hbefore⟩, hfirst⟩

private theorem indexOptions_eq_error_iff_refused {indices : List PackageIndex}
    (h : ∀ i ∈ indices, ∃ u, Url.parse i.url = .ok u) :
    indexOptions label indices = .error e ↔
      ∃ i, IsFirstRefused indices i ∧ e = .indexUrl label i.url .noCredentials := by
  rw [indexOptions_eq_error_iff]
  constructor
  · rintro ⟨before, i, behind, rfl, hbefore, hi⟩
    obtain ⟨hi, he⟩ := (indexFails_iff (h i (by simp))).mp hi
    refine ⟨i, ⟨before, behind, rfl, fun j hj hrefused ↦ ?_, hi⟩, he⟩
    exact hbefore j hj _ ((indexFails_iff (h j (by simp [hj]))).mpr ⟨hrefused, rfl⟩)
  · rintro ⟨i, ⟨before, behind, rfl, hbefore, hi⟩, he⟩
    refine ⟨before, i, behind, rfl, fun j hj e' hfails ↦ ?_,
      (indexFails_iff (h i (by simp))).mpr ⟨hi, he⟩⟩
    exact hbefore j hj ((indexFails_iff (h j (by simp [hj]))).mp hfails).1

/-! ## All parts together -/

/-- Compiling fails with the first part that does. -/
theorem compile_eq_error_iff :
    compile c params = .error e ↔
      installDependencies c = .error e ∨
        (∃ install, installDependencies c = .ok install) ∧
          (envSteps c params = .error e ∨
            (∃ env, envSteps c params = .ok env) ∧ labelSteps c params = .error e) := by
  simp only [compile, compileStage, builderSteps, runtimeSteps, envSteps, labelSteps, bind,
    Except.bind, pure, Except.pure]
  cases installDependencies c with
  | error e => simp [Except.map]
  | ok install =>
    cases assignments c.label .env .env params c.env.entries with
    | error e => simp [Except.map]
    | ok env =>
      cases assignments c.label .label .label params (defaultLabels.merge c.labels).entries <;>
        simp [Except.map]

private theorem installDependencies_eq_error_iff
    (h : ∀ i ∈ c.indices, ∃ u, Url.parse i.url = .ok u) :
    installDependencies c = .error e ↔ (c.requirements ≠ none ∨ c.dependencies ≠ []) ∧
      ∃ i, IsFirstRefused c.indices i ∧ e = .indexUrl c.label i.url .noCredentials := by
  rw [← indexOptions_eq_error_iff_refused h, installDependencies]
  split
  · next hnone =>
    rw [Bool.and_eq_true, Option.isNone_iff_eq_none, List.isEmpty_iff] at hnone
    simp [hnone.1, hnone.2]
  · next hsome =>
    rw [Bool.and_eq_true, Option.isNone_iff_eq_none, List.isEmpty_iff, not_and_or] at hsome
    cases indexOptions c.label c.indices <;> simp [Except.map, hsome]

private theorem exists_of_envSteps_or_labelSteps
    (h : envSteps c params = .error e ∨ labelSteps c params = .error e) :
    ∃ field value flaw, (field, value) ∈ c.templates ∧
      Template.expand value params = .error flaw ∧ e = .placeholder c.label field flaw := by
  rcases h with h | h
  · obtain ⟨before, entry, behind, hentries, -, flaw, hflaw, he⟩ := assignments_eq_error_iff.mp h
    have hmem : entry ∈ c.env.entries := by simp [hentries]
    exact ⟨.env entry.1, entry.2, flaw,
      List.mem_append_left _ (List.mem_map.mpr ⟨entry, hmem, rfl⟩), hflaw, he⟩
  · obtain ⟨before, entry, behind, hentries, -, flaw, hflaw, he⟩ := assignments_eq_error_iff.mp h
    have hmem : entry ∈ (defaultLabels.merge c.labels).entries := by simp [hentries]
    refine ⟨.label entry.1, entry.2, flaw, ?_, hflaw, he⟩
    rcases Dict.mem_entries_merge.mp hmem with hmem | ⟨hdefault, -⟩
    · exact List.mem_append_right _ (List.mem_map.mpr ⟨entry, hmem, rfl⟩)
    · rw [expand_of_mem_defaultLabels hdefault params] at hflaw
      cases hflaw

/-- What has been resolved fails to compile for an index exactly when there is something to
install and an index is refused, and then the first such index is named. Every other failure is
that of a value of the environment or of the labels that is no template. -/
theorem compile_eq_error_of_resolve (h : Config.resolve m requested ctx = .ok c)
    (params : Dict String) :
    (∀ label url flaw, compile c params = .error (.indexUrl label url flaw) ↔
      (c.requirements ≠ none ∨ c.dependencies ≠ []) ∧
        ∃ i, IsFirstRefused c.indices i ∧
          label = c.label ∧ url = i.url ∧ flaw = .noCredentials) ∧
      ∀ e, compile c params = .error e → (∃ label url flaw, e = .indexUrl label url flaw) ∨
        ∃ field value flaw, (field, value) ∈ c.templates ∧
          Template.expand value params = .error flaw ∧ e = .placeholder c.label field flaw := by
  obtain ⟨t, -, hadmits⟩ := Config.resolve_eq_ok_iff.mp h
  have hinstall {e : CompileError} := @installDependencies_eq_error_iff c e
    fun i hi ↦ (hadmits.indices_wellFormed hi).1
  constructor
  · intro label url flaw
    rw [compile_eq_error_iff, hinstall]
    simp only [CompileError.indexUrl.injEq]
    constructor
    · rintro (hfails | ⟨-, hruntime⟩)
      · exact hfails
      · -- A template that fails is not reported as an index.
        obtain ⟨_, _, _, _, _, he⟩ := exists_of_envSteps_or_labelSteps
          (hruntime.imp_right And.right)
        cases he
    · exact .inl
  · intro e he
    rcases compile_eq_error_iff.mp he with hfails | ⟨-, hruntime⟩
    · obtain ⟨-, i, -, he⟩ := hinstall.mp hfails
      exact .inl ⟨_, _, _, he⟩
    · exact .inr (exists_of_envSteps_or_labelSteps (hruntime.imp_right And.right))

/-- A secret counts rather than the user name that is spelled out beside it, so a file can be an
index. A reference in the environment is not closed. -/
theorem compile_eq_error_of_resolve_secret :
    let i : PackageIndex := ⟨"file:///simple", some "me", some "user", none, none, true⟩
    let m : Manifest :=
      { project := { name := "app", dependencies := ["flask"] }
        targets := .ofList [("api", { indices := [i], env := .ofList [("HOME", "$\x7bDIR")] })] }
    let c : Config :=
      { name := "app"
        target := some "api"
        pythonVersion := "3.13"
        dependencies := ["flask"]
        buildDeps := ["jq"]
        env := .ofList [("HOME", "$\x7bDIR")]
        indices := [i]
        transport := ⟨false, false, true⟩ }
    Config.resolve m none .none = .ok c ∧
      (∀ label url flaw, compile c .empty ≠ .error (.indexUrl label url flaw)) ∧
      compile c .empty = .error (.placeholder "api" (.env "HOME") (.unclosed 0)) := by
  intro i m c
  have h : Config.resolve m none .none = .ok c := by decide +kernel
  have hrefused : ¬ i.IsRefused := by
    have huser : i.usernameCredential = some (.secret "user") := by decide
    have hpassword : i.passwordCredential = none := by decide
    rintro ⟨⟨text, htext⟩, -⟩
    rw [huser, hpassword] at htext
    rcases htext with htext | htext <;> cases htext
  refine ⟨h, fun label url flaw he ↦ ?_, by decide +kernel⟩
  obtain ⟨-, j, hj, -⟩ := ((compile_eq_error_of_resolve h .empty).1 label url flaw).mp he
  obtain ⟨j, hmem, hj⟩ := exists_isFirstRefused_iff.mp ⟨j, hj⟩
  exact hrefused (List.mem_singleton.mp hmem ▸ hj)

/-- A file cannot be an index with a user name that is spelled out, and resolving does not say
so. -/
theorem compile_eq_indexUrl_error :
    let i : PackageIndex := ⟨"file:///simple", some "u", none, none, none, false⟩
    let m : Manifest :=
      { project := { name := "a", dependencies := ["x"] }
        targets := .ofList [("t", { indices := [i] })] }
    let c : Config :=
      { name := "a", target := some "t", pythonVersion := "3.13", dependencies := ["x"],
        indices := [i] }
    Config.resolve m (some "t") .none = .ok c ∧
      compile c .empty = .error (.indexUrl "t" "file:///simple" .noCredentials) := by
  intro i m c
  have h : Config.resolve m (some "t") .none = .ok c := by decide +kernel
  have he : compile c .empty = .error (.indexUrl "t" "file:///simple" .noCredentials) := by
    decide +kernel
  exact ⟨h, he⟩

end Script

end ContainerBuild
