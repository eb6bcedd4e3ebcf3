import ContainerBuild.Proofs.Config.Checks
import ContainerBuild.Proofs.Config.Resolved

/-!
# Where the version of a build comes from

A target that asks for a version decides alone: the version that the context pins has no part in
the result, whether it can be read or not. Every other target takes the pinned version, and then a
pin that cannot be read is an error. Of a pin only the first line counts, without the blanks at its
ends, and a pin whose first line is blank is like none.
-/

namespace ContainerBuild

open Text (firstLine nonBlank? trim)

/-- The context with another pinned version, or with another failure to read it. -/
def Context.withPinned (ctx : Context) (pinned : Except String String) : Context :=
  { ctx with pinned }

namespace Config

variable {m : Manifest} {requested : Option String} {ctx ctx' : Context} {t : Target}
  {label constraint text value version reason : String}

/-- A target asks for its version, trimmed, when there is something in it. -/
theorem explicitVersion_of_given (hvalue : t.pythonVersion = some value) (hne : trim value ≠ "") :
    explicitVersion t ctx = .ok (trim value) := by
  have hown : t.pythonVersion.bind nonBlank? = some (trim value) := by
    rw [hvalue, Option.bind_some, Text.nonBlank?_eq_some_iff]
    exact ⟨hne, rfl⟩
  simp only [explicitVersion, hown]

/-- A target without a version, or with a blank one, leaves it to the context. -/
theorem explicitVersion_of_blank (h : ∀ value ∈ t.pythonVersion, trim value = "") :
    explicitVersion t ctx = ctx.pinned.mapError .pinnedVersion := by
  have hown : t.pythonVersion.bind nonBlank? = none := by
    rw [Option.bind_eq_none_iff]
    intro value hvalue
    rw [nonBlank?, if_pos (h value hvalue)]
  simp only [explicitVersion, hown]
  cases ctx.pinned with
  | ok pinned => rfl
  | error reason => rfl

private theorem firstLine_trim_ne (hne : trim value ≠ "") : firstLine (trim value) ≠ "" := by
  intro hline
  apply hne
  apply String.toList_inj.mp
  have hblank : ∀ c ∈ (trim value).toList.takeWhile (· ≠ '\n'), Text.isBlank c = true := by
    rw [← Text.trimChars_eq_nil_iff, ← Text.toList_firstLine, hline]
    rfl
  rw [Text.toList_trim] at hblank ⊢
  -- The first character of a trimmed text is no blank, so it is no line feed and is in the line.
  by_contra hchars
  have hhead := Text.isBlank_head_trimChars hchars
  obtain ⟨c, rest, hc⟩ := List.exists_cons_of_ne_nil hchars
  simp only [hc, List.head_cons] at hhead
  have hfeed : c ≠ '\n' := by
    rintro rfl
    cases hhead
  rw [hc, List.takeWhile_cons_of_pos (by simpa using hfeed)] at hblank
  rw [hblank c List.mem_cons_self] at hhead
  cases hhead

private theorem choose_congr {text' : String} (hline : firstLine text = firstLine text') :
    Version.choose constraint (some text) = Version.choose constraint (some text') := by
  cases hc : Constraint.parse constraint with
  | error e =>
    unfold Version.choose
    rw [hc]
  | ok c =>
    by_cases hblank : firstLine text = ""
    · have hblank' : firstLine text' = "" := hline ▸ hblank
      rw [Version.choose_of_blank hc (by simpa using hblank),
        Version.choose_of_blank hc (by simpa using hblank')]
    · rw [Version.choose_of_firstLine hc hblank, Version.choose_of_firstLine hc (hline ▸ hblank),
        hline]

/-- Contexts that ask for versions with one first line give the same version. -/
theorem pythonVersionOf_of_firstLine {text' : String}
    (h : explicitVersion t ctx = .ok text) (h' : explicitVersion t ctx' = .ok text')
    (hline : firstLine text = firstLine text') :
    pythonVersionOf label constraint t ctx = pythonVersionOf label constraint t ctx' := by
  simp only [pythonVersionOf, h, h', choose_congr hline]

/-- The pinned version can matter to the version of a build only. -/
theorem resolve_withPinned_congr {pinned pinned' : Except String String}
    (h : ∀ name t, selectTarget m.targets requested = .ok (name, t) →
      pythonVersionOf (name.getD implicitTarget) m.declaration.requiresPython t
          (ctx.withPinned pinned) =
        pythonVersionOf (name.getD implicitTarget) m.declaration.requiresPython t
          (ctx.withPinned pinned')) :
    resolve m requested (ctx.withPinned pinned) = resolve m requested (ctx.withPinned pinned') :=
  -- the lines of the files are those of one context
  resolve_eq_of_checks rfl rfl rfl h fun _ _ _ _ _ ↦ rfl

private theorem resolve_withPinned_of_firstLine {text' : String}
    (hline : firstLine text = firstLine text') :
    resolve m requested (ctx.withPinned (.ok text)) =
      resolve m requested (ctx.withPinned (.ok text')) := by
  apply resolve_withPinned_congr
  intro name t _
  by_cases hgiven : ∀ value ∈ t.pythonVersion, trim value = ""
  · exact pythonVersionOf_of_firstLine (explicitVersion_of_blank hgiven)
      (explicitVersion_of_blank hgiven) hline
  · push Not at hgiven
    obtain ⟨value, hvalue, hne⟩ := hgiven
    exact pythonVersionOf_of_firstLine (explicitVersion_of_given hvalue hne)
      (explicitVersion_of_given hvalue hne) rfl

/-- A pin that is needed and cannot be read is the error exactly when the flavor and the lock file
of the target are in order. -/
theorem resolve_eq_pinnedVersion_iff {name : Option String}
    (hselect : selectTarget m.targets requested = .ok (name, t))
    (hblank : ∀ value ∈ t.pythonVersion, trim value = "") (hpinned : ctx.pinned = .error reason) :
    resolve m requested ctx = .error (.pinnedVersion reason) ↔
      (∃ flavor, flavorOf (name.getD implicitTarget) t = .ok flavor) ∧
        ∃ requirements, lockPathOf (name.getD implicitTarget) t = .ok requirements := by
  have hversion (label constraint : String) :
      pythonVersionOf label constraint t ctx = .error (.pinnedVersion reason) := by
    have hexplicit := @explicitVersion_of_blank ctx t hblank
    rw [hpinned] at hexplicit
    simp only [pythonVersionOf, hexplicit, Except.mapError]
  rw [resolve_eq_error_iff hselect]
  constructor
  · intro h
    cases h with
    | flavor h =>
      obtain ⟨flavor, he⟩ := exists_eq_of_flavorOf h
      cases he
    | lockPath hf h =>
      obtain he | ⟨path, flaw, he⟩ := exists_eq_of_lockPathOf h <;> cases he
    | pythonVersion hf hl h => exact ⟨⟨_, hf⟩, _, hl⟩
    | dependencies hf hl hv h => exact ⟨⟨_, hf⟩, _, hl⟩
    | flaw hf hl hv hd h => exact ⟨⟨_, hf⟩, _, hl⟩
  · rintro ⟨⟨flavor, hf⟩, requirements, hl⟩
    exact .pythonVersion hf hl (hversion _ _)

/-- A target that asks for a version is resolved in the same way whatever the context pins, and to
the first line of what it asks for. For every other target, a pin that cannot be read is the error
exactly when the flavor and the lock file are in order. A readable pin leads to the same result as
its first line, and as no pin when this line is blank. -/
theorem resolve_withPinned (m : Manifest) (requested : Option String) (ctx : Context) :
    (∀ name t, selectTarget m.targets requested = .ok (name, t) →
      (∀ value, t.pythonVersion = some value → trim value ≠ "" →
        (∀ pinned, resolve m requested (ctx.withPinned pinned) = resolve m requested ctx) ∧
        ∀ c, resolve m requested ctx = .ok c → c.pythonVersion = firstLine (trim value)) ∧
      ((∀ value ∈ t.pythonVersion, trim value = "") → ∀ reason,
        (resolve m requested (ctx.withPinned (.error reason)) = .error (.pinnedVersion reason) ↔
          (∃ flavor, flavorOf (name.getD implicitTarget) t = .ok flavor) ∧
            ∃ requirements, lockPathOf (name.getD implicitTarget) t = .ok requirements))) ∧
    ∀ text,
      resolve m requested (ctx.withPinned (.ok text)) =
        resolve m requested (ctx.withPinned (.ok (firstLine text))) ∧
      (firstLine text = "" → resolve m requested (ctx.withPinned (.ok text)) =
        resolve m requested (ctx.withPinned (.ok ""))) := by
  refine ⟨fun name t hselect ↦ ⟨fun value hvalue hne ↦ ⟨fun pinned ↦ ?_, fun c hc ↦ ?_⟩, ?_⟩,
    fun text ↦ ⟨resolve_withPinned_of_firstLine (Text.firstLine_firstLine text).symm,
      fun hline ↦ resolve_withPinned_of_firstLine (hline.trans rfl)⟩⟩
  · have hself : ctx = ctx.withPinned ctx.pinned := rfl
    rw [hself]
    apply resolve_withPinned_congr
    intro other t' hselect'
    rw [hselect] at hselect'
    obtain ⟨rfl, rfl⟩ := Prod.mk.inj (Except.ok.inj hselect')
    exact pythonVersionOf_of_firstLine (explicitVersion_of_given hvalue hne)
      (explicitVersion_of_given hvalue hne) rfl
  · obtain ⟨t', hselect', hadmits⟩ := resolve_eq_ok_iff.mp hc
    rw [hselect] at hselect'
    obtain ⟨-, rfl⟩ := Prod.mk.inj (Except.ok.inj hselect')
    obtain ⟨text, htext, hchosen⟩ :=
      exists_explicitVersion_of_pythonVersionOf hadmits.pythonVersion
    rw [explicitVersion_of_given hvalue hne] at htext
    obtain rfl := Except.ok.inj htext
    exact Version.eq_firstLine_of_choose (firstLine_trim_ne hne) hchosen
  · intro hblank reason
    exact resolve_eq_pinnedVersion_iff hselect hblank rfl

/-- A target with a version on its second line and one with a blank version, in a context whose pin
cannot be read, and with pins of several lines in its place. -/
theorem resolve_withPinned_lines :
    let api : Target := { pythonVersion := some " \n3.9 \n3.10" }
    let web : Target := { pythonVersion := some "\t" }
    let m : Manifest :=
      { project := { name := "app", requiresPython := some ">=3.8" }
        targets := .ofList [("api", api), ("web", web)] }
    let ctx : Context := ⟨.error "denied", fun _ ↦ .ok []⟩
    let c : Config := { name := "app", target := some "api", pythonVersion := "3.9" }
    (selectTarget m.targets (some "api") = .ok (some "api", api) ∧
      api.pythonVersion = some " \n3.9 \n3.10" ∧ trim " \n3.9 \n3.10" ≠ "" ∧
      resolve m (some "api") ctx = .ok c ∧ c.pythonVersion = firstLine (trim " \n3.9 \n3.10") ∧
      ∀ pinned, resolve m (some "api") (ctx.withPinned pinned) = .ok c) ∧
    selectTarget m.targets (some "web") = .ok (some "web", web) ∧
    (∀ value ∈ web.pythonVersion, trim value = "") ∧
    resolve m (some "web") (ctx.withPinned (.error "denied")) = .error (.pinnedVersion "denied") ∧
    resolve m (some "web") (ctx.withPinned (.ok "v3.12 \n3.11")) =
      resolve m (some "web") (ctx.withPinned (.ok "v3.12")) ∧
    firstLine " \n3.11" = "" ∧
    resolve m (some "web") (ctx.withPinned (.ok " \n3.11")) =
      resolve m (some "web") (ctx.withPinned (.ok "")) := by
  intro api web m ctx c
  have hapi : selectTarget m.targets (some "api") = .ok (some "api", api) := by decide +kernel
  have hweb : selectTarget m.targets (some "web") = .ok (some "web", web) := by decide +kernel
  have hc : resolve m (some "api") ctx = .ok c := by decide +kernel
  have hgiven : trim " \n3.9 \n3.10" ≠ "" := by decide
  have hblank : ∀ value ∈ web.pythonVersion, trim value = "" := by decide
  have hline : firstLine " \n3.11" = "" := by decide
  obtain ⟨hany, hchosen⟩ := ((resolve_withPinned m (some "api") ctx).1 _ _ hapi).1 _ rfl hgiven
  obtain ⟨hselected, hpins⟩ := resolve_withPinned m (some "web") ctx
  refine ⟨⟨hapi, rfl, hgiven, hc, hchosen c hc, fun pinned ↦ (hany pinned).trans hc⟩, hweb, hblank,
    ((hselected _ _ hweb).2 hblank "denied").mpr ⟨⟨.debian, rfl⟩, none, rfl⟩, ?_, hline,
    (hpins " \n3.11").2 hline⟩
  have hfirst : firstLine "v3.12 \n3.11" = "v3.12" := by decide
  rw [(hpins "v3.12 \n3.11").1, hfirst]

end Config

end ContainerBuild
