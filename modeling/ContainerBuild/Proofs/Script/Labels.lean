import ContainerBuild.Proofs.Dict.Lookup
import ContainerBuild.Proofs.Dict.Merge
import ContainerBuild.Proofs.Quote.Reading
import ContainerBuild.Proofs.Script.Keywords
import Mathlib.Data.List.Nodup

/-!
# Labels of the image

An image has for each key the label that is set last. The labels of the configuration stand among
the default ones, each key once, so all of them are in effect as long as no later instruction sets
their keys. The only later one names the authors of the project. It sets its key a second time when
the configuration gives that label itself, and then the authors are what the image is labelled with.
-/

namespace ContainerBuild.Script

variable {c : Config} {params : Dict String} {s : Script} {i : Instruction}
  {key text : String}

/-- An instruction gives the image a label with a key. -/
def SetsLabel (key : String) (i : Instruction) : Prop :=
  ∃ text, i = ⟨.runtime, .label, assignment key text⟩

/-- The image of a script has a label: of the instructions with its key the last one sets it. -/
def HasLabel (s : Script) (key text : String) : Prop :=
  ∃ before behind, s = before ++ ⟨.runtime, .label, assignment key text⟩ :: behind ∧
    ∀ i ∈ behind, ¬ SetsLabel key i

/-- No label is set by two instructions of a script. -/
def SetsLabelsOnce (s : Script) : Prop :=
  s.Pairwise fun i j ↦ ∀ key, SetsLabel key i → ¬ SetsLabel key j

/-- What a script labels an image with for the authors of a project. -/
def authorsText (c : Config) : String := ", ".intercalate (c.authors.map Author.render)

/-- The keys of the labels that are set, in their order. -/
def labelKeys (c : Config) : List String :=
  (defaultLabels.merge c.labels).keys ++ if c.authors = [] then [] else [authorsLabel]

/-! ## Keys of assignments -/

private theorem eq_nil_of_introduces {s u b : List Char}
    (h : '=' :: '"' :: (Quote.valueChars s ++ ['"']) = u ++ '=' :: '"' :: (b ++ ['"'])) :
    u = [] := by
  match u with
  | [] => rfl
  | [x] => simp at h
  | x :: y :: u =>
    simp only [List.cons_append, List.cons.injEq] at h
    have hvalue : Quote.valueChars s ++ ['"'] = (u ++ '=' :: '"' :: b) ++ ['"'] := by
      rw [h.2.2, List.append_assoc, List.cons_append, List.cons_append]
    exact absurd (List.append_cancel_right hvalue) (Quote.valueChars_ne s u b)

private theorem toList_assignment (key text : String) : (assignment key text).toList =
    key.toList ++ '=' :: '"' :: (Quote.valueChars text.toList ++ ['"']) := by
  simp [assignment, Quote.value]

private theorem eq_of_assignment_eq {key key' text text' : String}
    (h : assignment key text = assignment key' text') : key = key' := by
  have hchars := congrArg String.toList h
  rw [toList_assignment, toList_assignment, List.append_eq_append_iff] at hchars
  apply String.toList_inj.mp
  rcases hchars with ⟨u, hkey, hrest⟩ | ⟨u, hkey, hrest⟩
  · rw [hkey, eq_nil_of_introduces hrest, List.append_nil]
  · rw [hkey, eq_nil_of_introduces hrest, List.append_nil]

/-- An instruction sets one label at most. -/
theorem SetsLabel.key_unique {key' : String} (h : SetsLabel key i) (h' : SetsLabel key' i) :
    key' = key := by
  obtain ⟨text, rfl⟩ := h
  obtain ⟨text', heq⟩ := h'
  exact (eq_of_assignment_eq (Instruction.mk.inj heq).2.2).symm

/-! ## Instructions that set one label each -/

private theorem exists_setsLabel_iff {keys : List String} (h : List.Forall₂ SetsLabel keys s) :
    (∃ i ∈ s, SetsLabel key i) ↔ key ∈ keys := by
  induction h with
  | nil => simp
  | @cons k i keys s hi _ ih =>
    rw [List.exists_mem_cons_iff, List.mem_cons, ih]
    exact or_congr_left ⟨fun hkey ↦ hi.key_unique hkey, fun hkey ↦ hkey ▸ hi⟩

/-- No label is set twice when no key stands twice. -/
theorem setsLabelsOnce_iff_nodup {keys : List String} (h : List.Forall₂ SetsLabel keys s) :
    s.SetsLabelsOnce ↔ keys.Nodup := by
  induction h with
  | nil => simp [SetsLabelsOnce]
  | @cons k i keys s hi hrest ih =>
    rw [SetsLabelsOnce, List.pairwise_cons, List.nodup_cons, ← exists_setsLabel_iff hrest]
    refine and_congr ⟨?_, ?_⟩ ih
    · rintro hother ⟨j, hj, hset⟩
      exact hother j hj k hi hset
    · intro hother j hj key hkey hset
      rw [← hi.key_unique hkey] at hother
      exact hother ⟨j, hj, hset⟩

private theorem setsLabelsOnce_append_left {before : Script}
    (h : ∀ i ∈ before, ∀ key, ¬ SetsLabel key i) :
    SetsLabelsOnce (before ++ s) ↔ s.SetsLabelsOnce := by
  rw [SetsLabelsOnce, List.pairwise_append]
  constructor
  · exact fun hs ↦ hs.2.1
  · intro hs
    refine ⟨?_, hs, ?_⟩
    · exact List.pairwise_of_forall_mem_list fun i hi _ _ key hkey ↦ absurd hkey (h i hi key)
    · exact fun i hi _ _ key hkey ↦ absurd hkey (h i hi key)

private theorem HasLabel.append {before behind : Script} (h : s.HasLabel key text)
    (hbehind : ∀ i ∈ behind, ¬ SetsLabel key i) : HasLabel (before ++ s ++ behind) key text := by
  obtain ⟨front, rest, rfl, hrest⟩ := h
  refine ⟨before ++ front, rest ++ behind, ?_, ?_⟩
  · simp only [List.append_assoc, List.cons_append]
  · intro i hi
    rcases List.mem_append.mp hi with hi | hi
    · exact hrest i hi
    · exact hbehind i hi

private theorem SetsLabelsOnce.hasLabel (h : s.SetsLabelsOnce)
    (hi : ⟨.runtime, .label, assignment key text⟩ ∈ s) : s.HasLabel key text := by
  obtain ⟨before, behind, rfl⟩ := List.append_of_mem hi
  refine ⟨before, behind, rfl, fun j hj hset ↦ ?_⟩
  have hpair := (List.pairwise_append.mp h).2.1
  exact (List.pairwise_cons.mp hpair).1 j hj key ⟨text, rfl⟩ hset

private theorem eq_or_mem_of_cons_eq {i j : Instruction} {u behind behind' : Script}
    (h : i :: behind = u ++ j :: behind') : i = j ∨ j ∈ behind := by
  cases u with
  | nil => exact .inl (List.cons.inj h).1
  | cons x u =>
    rw [List.cons_append, List.cons.injEq] at h
    exact .inr (h.2 ▸ List.mem_append_right _ List.mem_cons_self)

/-- An image has one label with a key. -/
theorem HasLabel.unique {text' : String} (h : s.HasLabel key text) (h' : s.HasLabel key text') :
    assignment key text = assignment key text' := by
  obtain ⟨before, behind, rfl, hlast⟩ := h
  obtain ⟨before', behind', hs, hlast'⟩ := h'
  rcases List.append_eq_append_iff.mp hs with ⟨u, -, hu⟩ | ⟨u, -, hu⟩
  · rcases eq_or_mem_of_cons_eq hu with heq | hmem
    · exact (Instruction.mk.inj heq).2.2
    · exact absurd ⟨text', rfl⟩ (hlast _ hmem)
  · rcases eq_or_mem_of_cons_eq hu with heq | hmem
    · exact (Instruction.mk.inj heq).2.2.symm
    · exact absurd ⟨text, rfl⟩ (hlast' _ hmem)

/-! ## The labels of a script -/

private theorem nodup_labelKeys_iff :
    (labelKeys c).Nodup ↔ c.authors = [] ∨ authorsLabel ∉ c.labels.keys := by
  have hdefault : authorsLabel ∉ defaultLabels.keys := by decide
  have hnodup := (defaultLabels.merge c.labels).nodup_keys
  rw [labelKeys]
  by_cases hauthors : c.authors = []
  · rw [if_pos hauthors, List.append_nil]
    exact iff_of_true hnodup (.inl hauthors)
  · rw [if_neg hauthors, List.nodup_append_comm, List.singleton_append, List.nodup_cons,
      Dict.mem_keys_merge, or_iff_left hdefault]
    exact ⟨fun h ↦ .inr h.1, fun h ↦ ⟨h.resolve_left hauthors, hnodup⟩⟩

private theorem not_setsLabel_inStage {stage : Stage} {steps : List Step}
    (h : stage = .builder ∨ ∀ step ∈ steps, step.1 ≠ .label) :
    ∀ i ∈ inStage stage steps, ∀ key, ¬ SetsLabel key i := by
  rintro i hi key ⟨text, rfl⟩
  obtain ⟨step, hstep, heq⟩ := List.mem_map.mp hi
  obtain ⟨hstage, hkeyword, -⟩ := Instruction.mk.inj heq
  rcases h with rfl | h
  · cases hstage
  · exact h step hstep hkeyword

/-- The labels from templates stand behind what sets no label and in front of the authors. -/
theorem exists_labels_of_compile (h : compile c params = .ok s) :
    ∃ before labels,
      s = before ++ inStage .runtime labels ++ inStage .runtime (authorSteps c) ∧
      (∀ i ∈ before, ∀ key, ¬ SetsLabel key i) ∧
      List.Forall₂ (IsAssigned .label params) (defaultLabels.merge c.labels).entries labels := by
  obtain ⟨install, env, labels, -, henv, hlabels, rfl⟩ := compile_eq_ok_iff.mp h
  rw [envSteps, assignments_eq_ok_iff] at henv
  rw [labelSteps, assignments_eq_ok_iff] at hlabels
  refine ⟨inStage .builder (builderLayout c install) ++ inStage .runtime (runtimeFront c ++ env),
    labels, ?_, ?_, hlabels⟩
  · simp only [layout_eq_templates, inStage, List.map_append, List.append_assoc]
  · intro i hi
    rcases List.mem_append.mp hi with hi | hi
    · exact not_setsLabel_inStage (.inl rfl) i hi
    · obtain ⟨rest, hfront, hother⟩ := exists_runtimeFront_eq c
      refine not_setsLabel_inStage (.inr fun step hstep ↦ ?_) i hi
      rw [hfront] at hstep
      rcases List.mem_append.mp hstep with hstep | hstep
      · rcases List.mem_cons.mp hstep with rfl | hstep
        · show Keyword.from ≠ .label
          decide
        · exact (hother step hstep).2
      · rw [keyword_of_isAssigned henv hstep]
        decide

/-- Labels from templates set the labels with their keys. -/
theorem forall₂_setsLabel {entries : List (String × String)} {labels : List Step}
    (h : List.Forall₂ (IsAssigned .label params) entries labels) :
    List.Forall₂ SetsLabel (entries.map Prod.fst) (inStage .runtime labels) := by
  rw [inStage, List.forall₂_map_left_iff, List.forall₂_map_right_iff]
  refine h.imp ?_
  rintro entry step ⟨text, -, rfl⟩
  exact ⟨text, rfl⟩

/-- The authors of a project, if there are any, are named by one label. -/
theorem inStage_authorSteps (c : Config) : inStage .runtime (authorSteps c) =
    if c.authors = [] then []
      else [⟨.runtime, .label, assignment authorsLabel (authorsText c)⟩] := by
  by_cases h : c.authors = []
  · simp [inStage, authorSteps, h]
  · simp [inStage, authorSteps, authorsText, h]

private theorem hasLabel_of_mem_merge (h : compile c params = .ok s) {value : String}
    (hmem : (key, value) ∈ (defaultLabels.merge c.labels).entries) :
    ∃ text, Template.expand value params = .ok text ∧
      (c.authors = [] ∨ key ≠ authorsLabel → s.HasLabel key text) := by
  obtain ⟨before, labels, rfl, -, hlabels⟩ := exists_labels_of_compile h
  obtain ⟨text, hexpand, hstep⟩ := exists_mem_of_isAssigned hlabels hmem
  have hi : ⟨.runtime, .label, assignment key text⟩ ∈ inStage .runtime labels :=
    List.mem_map_of_mem hstep
  refine ⟨text, hexpand, fun hkey ↦ ?_⟩
  have honce : SetsLabelsOnce (inStage .runtime labels) :=
    (setsLabelsOnce_iff_nodup (forall₂_setsLabel hlabels)).mpr
      (defaultLabels.merge c.labels).nodup_keys
  refine (honce.hasLabel hi).append fun i hauthors ↦ ?_
  rw [inStage_authorSteps] at hauthors
  split at hauthors
  · cases hauthors
  · next hsome =>
    rw [List.mem_singleton.mp hauthors]
    intro hset
    exact (hkey.resolve_left hsome) (SetsLabel.key_unique ⟨_, rfl⟩ hset)

/-- The authors of a project are a label of the image. -/
theorem hasLabel_authors (h : compile c params = .ok s) (hauthors : c.authors ≠ []) :
    s.HasLabel authorsLabel (authorsText c) := by
  obtain ⟨before, labels, rfl, -⟩ := exists_labels_of_compile h
  rw [inStage_authorSteps, if_neg hauthors]
  exact ⟨_, [], rfl, List.forall_mem_nil _⟩

/-- No label is set twice by a script, unless the configuration labels the image with authors and
the project has some. -/
theorem setsLabelsOnce_of_compile (h : compile c params = .ok s) :
    s.SetsLabelsOnce ↔ c.authors = [] ∨ authorsLabel ∉ c.labels.keys := by
  obtain ⟨before, labels, rfl, hbefore, hlabels⟩ := exists_labels_of_compile h
  have hauthors : List.Forall₂ SetsLabel (if c.authors = [] then [] else [authorsLabel])
      (inStage .runtime (authorSteps c)) := by
    rw [inStage_authorSteps]
    split
    · exact .nil
    · exact .cons ⟨_, rfl⟩ .nil
  have hkeys : List.Forall₂ SetsLabel (labelKeys c)
      (inStage .runtime labels ++ inStage .runtime (authorSteps c)) :=
    List.rel_append (forall₂_setsLabel hlabels) hauthors
  rw [List.append_assoc, setsLabelsOnce_append_left hbefore, setsLabelsOnce_iff_nodup hkeys,
    nodup_labelKeys_iff]

/-- Of a script that is compiled: no label is set twice exactly when the project has no authors or
the configuration does not give their label; every other label of the configuration is one of the
image, with the parameters put into its value, and so is every default label that the configuration
does not give; and a project with authors has these for its authors' label, whatever the
configuration says. -/
theorem hasLabel_of_compile (h : compile c params = .ok s) :
    (s.SetsLabelsOnce ↔ c.authors = [] ∨ authorsLabel ∉ c.labels.keys) ∧
    (∀ key value, c.labels.get? key = some value →
      ∃ text, Template.expand value params = .ok text ∧
        (c.authors = [] ∨ key ≠ authorsLabel → s.HasLabel key text)) ∧
    (∀ key value, defaultLabels.get? key = some value → key ∉ c.labels.keys →
      s.HasLabel key value) ∧
    (c.authors ≠ [] → ∀ text, s.HasLabel authorsLabel text ↔
      Quote.value text = Quote.value (authorsText c)) := by
  refine ⟨setsLabelsOnce_of_compile h, ?_, ?_, ?_⟩
  · intro key value hvalue
    have hentry := Dict.mem_entries_iff_get?.mpr hvalue
    exact hasLabel_of_mem_merge h (Dict.mem_entries_merge.mpr (.inl hentry))
  · intro key value hvalue hkey
    have hentry := Dict.mem_entries_iff_get?.mpr hvalue
    obtain ⟨text, hexpand, hlabel⟩ :=
      hasLabel_of_mem_merge h (Dict.mem_entries_merge.mpr (.inr ⟨hentry, hkey⟩))
    obtain rfl : value = text :=
      Except.ok.inj ((expand_of_mem_defaultLabels hentry params).symm.trans hexpand)
    refine hlabel (.inr ?_)
    rintro rfl
    have hnone : defaultLabels.get? authorsLabel = none := by decide
    rw [hnone] at hvalue
    cases hvalue
  · intro hauthors text
    have hlabel := hasLabel_authors h hauthors
    constructor
    · intro htext
      exact (String.append_right_inj _).mp (htext.unique hlabel)
    · intro hvalue
      obtain ⟨before, behind, hs, hbehind⟩ := hlabel
      exact ⟨before, behind, by rw [hs, assignment, assignment, hvalue], hbehind⟩

/-- A label in the place of a default one, beside one with a parameter. -/
theorem hasLabel_of_compile_release :
    let c : Config :=
      { name := "app"
        pythonVersion := "3.12"
        authors := [⟨"Ada", some "ada@x.io"⟩]
        labels := .ofList [("release", "v$N"), ("pyimage.version", "v2")] }
    let params : Dict String := .ofList [("N", "7")]
    ∃ s : Script, compile c params = .ok s ∧ s.SetsLabelsOnce ∧ s.HasLabel "release" "v7" ∧
      s.HasLabel "pyimage.version" "v2" ∧ s.HasLabel "moby.buildkit.frontend" "pyimage" ∧
      s.HasLabel authorsLabel "Ada <ada@x.io>" := by
  intro c params
  have hsome : (compile c params).toOption.isSome = true := by decide +kernel
  obtain ⟨s, hs⟩ := exists_eq_ok_of_isSome hsome
  obtain ⟨honce, hown, hdefault, hauthors⟩ := hasLabel_of_compile hs
  have hkey : authorsLabel ∉ c.labels.keys := by decide
  have hseven : Template.expand "v$N" params = .ok "v7" := by decide +kernel
  have htwo : Template.expand "v2" params = .ok "v2" :=
    Template.expand_of_literal (by decide) params
  obtain ⟨release, hrelease, hlabel⟩ := hown "release" "v$N" (by decide)
  obtain ⟨version, hversion, hlabel'⟩ := hown "pyimage.version" "v2" (by decide)
  obtain rfl : "v7" = release := Except.ok.inj (hseven.symm.trans hrelease)
  obtain rfl : "v2" = version := Except.ok.inj (htwo.symm.trans hversion)
  refine ⟨s, hs, honce.mpr (.inr hkey), hlabel (.inr (by decide)), hlabel' (.inr (by decide)),
    hdefault _ _ (by decide) (by decide), ?_⟩
  exact (hauthors (List.cons_ne_nil _ _) _).mpr rfl

/-- The authors of a project take the place of the authors that a configuration gives. -/
theorem not_hasLabel_of_authors :
    let c : Config :=
      { name := "a"
        pythonVersion := "3.13"
        authors := [⟨"A", none⟩]
        labels := .ofList [(authorsLabel, "me")] }
    c.labels.get? authorsLabel = some "me" ∧ Template.expand "me" .empty = .ok "me" ∧
      ∃ s : Script, compile c .empty = .ok s ∧ ¬ s.SetsLabelsOnce ∧
        ¬ s.HasLabel authorsLabel "me" := by
  intro c
  have hsome : (compile c .empty).toOption.isSome = true := by decide +kernel
  obtain ⟨s, hs⟩ := exists_eq_ok_of_isSome hsome
  refine ⟨by decide, Template.expand_of_literal (by decide) _, s, hs, ?_, fun hlabel ↦ ?_⟩
  · rw [setsLabelsOnce_of_compile hs]
    decide
  · have heq := hlabel.unique (hasLabel_authors hs (List.cons_ne_nil _ _))
    revert heq
    decide

end ContainerBuild.Script
