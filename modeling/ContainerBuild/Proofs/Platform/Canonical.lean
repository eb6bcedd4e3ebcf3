import ContainerBuild.Proofs.Platform.Names
import ContainerBuild.Proofs.Text.Decimal
import ContainerBuild.Proofs.Text.OneLine
import Mathlib

/-!
# Canonical platforms

Whatever is read as a platform comes to its registry names, in lower case and without aliases.
The platforms with such names are the canonical ones. Each of them is read back from its own
name, so they are exactly the platforms that can be read, and a list of platforms is read back
from their names with commas between them.
-/

namespace ContainerBuild.Platform

variable {p : Platform} {s text list os architecture : String} {variant : Option String}
  {components entries : List String} {ps : List Platform}

/-! ### Names -/

/-- A text that may be a part of a platform's name: letters, digits, underscores and hyphens, at
least one of them. -/
def IsName (s : String) : Prop :=
  s ≠ "" ∧ ∀ c ∈ s.toList, c.isAlphanum = true ∨ c = '_' ∨ c = '-'

/-- A name without capital letters. -/
structure IsLowerName (s : String) : Prop where
  isName : IsName s
  lower : ∀ c ∈ s.toList, c.toLower = c

/-- The characters of names are letters, digits, underscores and hyphens. -/
theorem isNameChar_iff {c : Char} :
    isNameChar c = true ↔ c.isAlphanum = true ∨ c = '_' ∨ c = '-' := by
  simp only [isNameChar, Text.isAlphanum_iff, Bool.or_eq_true, Bool.and_eq_true,
    decide_eq_true_eq]
  tauto

/-- A text is a name when it is not empty and has only characters of names. -/
theorem isName_iff : IsName s ↔ s ≠ "" ∧ s.toList.all isNameChar = true := by
  simp only [IsName, List.all_eq_true, isNameChar_iff]

instance (s : String) : Decidable (IsName s) := decidable_of_iff _ isName_iff.symm

instance (s : String) : Decidable (IsLowerName s) :=
  decidable_of_iff (IsName s ∧ s.toList.all (fun c ↦ c.toLower == c) = true)
    ⟨fun h ↦ ⟨h.1, by simpa using h.2⟩, fun h ↦ ⟨h.isName, by simpa using h.lower⟩⟩

private theorem isNameChar_toLower {c : Char} (h : isNameChar c = true) :
    isNameChar c.toLower = true := by
  by_cases hupper : c.isUpper = true
  · have halpha : c.toLower.isAlpha = true := by
      rw [Char.isAlpha_toLower_eq_isAlpha, Char.isAlpha, hupper, Bool.true_or]
    exact isNameChar_iff.mpr (.inl (by rw [Char.isAlphanum, halpha, Bool.true_or]))
  · rwa [Char.toLower_eq_of_not_isUpper hupper]

/-- The lower case of a name, character by character. -/
theorem toList_lower (h : IsName s) : (Text.lower s).toList = s.toList.map Char.toLower := by
  rw [isName_iff] at h
  rw [Text.lower, String.toList_ofList]
  refine Text.lowerFrom_of_ascii (fun c hc ↦ ?_) []
  exact (visible_of_isNameChar (List.all_eq_true.mp h.2 c hc)).2.trans (by decide)

private theorem isLowerName_lower (h : IsName s) : IsLowerName (Text.lower s) := by
  have hchars := toList_lower h
  refine ⟨isName_iff.mpr ⟨?_, ?_⟩, ?_⟩
  · intro hempty
    rw [hempty, String.toList_empty, eq_comm, List.map_eq_nil_iff, String.toList_eq_nil_iff]
      at hchars
    exact h.1 hchars
  · rw [hchars, List.all_map, List.all_eq_true]
    exact fun c hc ↦ isNameChar_toLower (List.all_eq_true.mp (isName_iff.mp h).2 c hc)
  · rw [hchars, List.forall_mem_map]
    exact fun c _ ↦ Char.toLower_toLower_eq_toLower c

private theorem IsLowerName.lower_eq (h : IsLowerName s) : Text.lower s = s := by
  apply String.toList_inj.mp
  rw [toList_lower h.isName]
  exact (List.map_congr_left h.lower).trans (List.map_id _)

private theorem isBlank_of_isNameChar {c : Char} (h : isNameChar c = true) :
    Text.isBlank c = false :=
  have hvisible := visible_of_isNameChar h
  Text.isBlank_of_visible hvisible.1 hvisible.2

/-! ### Registry names -/

/-- The other names of architectures that have a registry name. -/
def aliases : List String :=
  ["x86_64", "x86-64", "aarch64", "armhf", "armel", "i386", "i686", "x86"]

/-- The architecture and the variant have the names that registries use: no alias, and no variant
that goes without saying, except that of 32-bit ARM, which is always named in full. -/
structure IsRegistered (architecture : String) (variant : Option String) : Prop where
  not_alias : architecture ∉ aliases
  arm : architecture = "arm" → ∃ v, variant = some v ∧ v ∉ ["5", "6", "7", "8"]
  arm64 : architecture = "arm64" → variant ≠ some "8" ∧ variant ≠ some "v8"
  amd64 : architecture = "amd64" → variant ≠ some "v1"
  x86 : architecture = "386" → variant = none

/-- Registry names are names that registries use. -/
theorem isRegistered_architectureName (architecture : String) (variant : Option String) :
    IsRegistered (architectureName architecture variant).1
      (architectureName architecture variant).2 := by
  unfold architectureName
  split
  · refine ⟨by simp [aliases], by simp, by simp, fun _ ↦ ?_, by simp⟩
    split
    · simp
    · next h => exact h
  split
  · refine ⟨by simp [aliases], by simp, fun _ ↦ ?_, by simp, by simp⟩
    split
    · simp
    · next h => simpa [not_or] using h
  split
  · exact ⟨by decide, by simp, by simp, by simp, by simp⟩
  split
  · exact ⟨by decide, by simp, by simp, by simp, by simp⟩
  split
  · cases variant with
    | none => exact ⟨by decide, by simp, by simp, by simp, by simp⟩
    | some v =>
      refine ⟨by simp [aliases], fun _ ↦ ⟨_, rfl, ?_⟩, by simp, by simp, by simp⟩
      split
      · next h =>
        have hnumbered : ∀ digit ∈ ["5", "6", "7", "8"], "v" ++ digit ∉ ["5", "6", "7", "8"] := by
          decide
        exact hnumbered v h
      · next h => exact h
  split
  · exact ⟨by decide, by simp, by simp, by simp, by simp⟩
  · next hx86_64 haarch64 harmhf harmel harm hx86 =>
    simp only [List.mem_cons, List.not_mem_nil, or_false, not_or] at hx86_64 haarch64 hx86
    refine ⟨?_, fun h ↦ absurd h harm, fun h ↦ absurd h haarch64.2, fun h ↦ absurd h hx86_64.2.2,
      fun h ↦ absurd h hx86.2.2.2⟩
    simp only [aliases, List.mem_cons, List.not_mem_nil, or_false, not_or]
    exact ⟨hx86_64.1, hx86_64.2.1, haarch64.1, harmhf, harmel, hx86.1, hx86.2.1, hx86.2.2.1⟩

/-- Names that registries use are their own registry names. -/
theorem IsRegistered.architectureName_eq (h : IsRegistered architecture variant) :
    architectureName architecture variant = (architecture, variant) := by
  have halias := h.not_alias
  simp only [aliases, List.mem_cons, List.not_mem_nil, or_false, not_or] at halias
  unfold architectureName
  simp only [List.mem_cons, List.not_mem_nil, or_false, halias, false_or, if_false]
  split
  · next heq => rw [if_neg (h.amd64 heq), heq]
  split
  · next heq => rw [if_neg (not_or.mpr (h.arm64 heq)), heq]
  split
  · next heq =>
    obtain ⟨v, rfl, hv⟩ := h.arm heq
    simp only [List.mem_cons, List.not_mem_nil, or_false] at hv
    simp only [if_neg hv, heq]
  split
  · next heq => rw [h.x86 heq, heq]
  · rfl

/-! ### Canonical platforms -/

/-- A platform under the names that registries use. -/
structure IsCanonical (p : Platform) : Prop where
  names : ∀ part ∈ p.parts, IsLowerName part
  os : p.os ≠ "macos"
  architecture : IsRegistered p.architecture p.variant

private theorem isLowerName_systemName (h : IsLowerName os) : IsLowerName (systemName os) := by
  rw [systemName]
  split
  · decide
  · exact h

private theorem systemName_ne (os : String) : systemName os ≠ "macos" := by
  rw [systemName]
  split
  · decide
  · next h => exact h

/-- A platform that is given by names is canonical. -/
theorem isCanonical_ofNames (hos : IsName os) (ha : IsName architecture)
    (hv : ∀ v ∈ variant, IsName v) : (ofNames os architecture variant).IsCanonical := by
  have hvariant : ∀ v ∈ variant.map Text.lower, IsLowerName v := by
    intro v h
    obtain ⟨w, hw, rfl⟩ := Option.map_eq_some_iff.mp h
    exact isLowerName_lower (hv w hw)
  obtain ⟨harch, hvar⟩ := forall_architectureName (by decide) (isLowerName_lower ha) hvariant
  refine ⟨fun part hpart ↦ ?_, systemName_ne _, isRegistered_architectureName _ _⟩
  rw [parts, List.mem_cons, List.mem_cons, Option.mem_toList] at hpart
  obtain rfl | rfl | hpart := hpart
  · exact isLowerName_systemName (isLowerName_lower hos)
  · exact harch
  · exact hvar part hpart

/-- A canonical platform is the one that its own names give. -/
theorem IsCanonical.ofNames_eq (h : p.IsCanonical) : ofNames p.os p.architecture p.variant = p := by
  obtain ⟨os, architecture, variant⟩ := p
  obtain ⟨hnames, hos, harch⟩ := h
  have hvariant : variant.map Text.lower = variant := by
    cases variant with
    | none => rfl
    | some v => exact congrArg some (hnames v (by simp [parts])).lower_eq
  have hosName : Text.lower os = os := (hnames os (by simp [parts])).lower_eq
  have harchName : Text.lower architecture = architecture :=
    (hnames architecture (by simp [parts])).lower_eq
  simp only [ofNames, hosName, harchName, hvariant, harch.architectureName_eq]
  rw [systemName, if_neg hos]

/-- No part of a canonical platform is divided by a slash. -/
theorem IsCanonical.isPlain (h : p.IsCanonical) : p.IsPlain := fun part hpart ↦
  slash_not_mem_name (isName_iff.mp (h.names part hpart).isName).2

/-- The name of a canonical platform has only slashes and lower-case characters of names. -/
theorem IsCanonical.mem_render (h : p.IsCanonical) {c : Char} (hc : c ∈ p.render.toList) :
    c = '/' ∨ isNameChar c = true ∧ c.toLower = c := by
  rw [render_eq, String.toList_intercalate] at hc
  rcases Text.mem_intercalate hc with hc | ⟨piece, hpiece, hc⟩
  · exact .inl (List.mem_singleton.mp hc)
  · obtain ⟨part, hpart, rfl⟩ := List.mem_map.mp hpiece
    have hpart := h.names part hpart
    exact .inr ⟨List.all_eq_true.mp (isName_iff.mp hpart.isName).2 c hc, hpart.lower c hc⟩

/-- The name of a canonical platform has no blanks. -/
theorem IsCanonical.trim_render (h : p.IsCanonical) : Text.trim p.render = p.render := by
  refine Text.trim_eq_self fun c hc ↦ ?_
  rcases h.mem_render hc with rfl | ⟨hname, -⟩
  · rfl
  · exact isBlank_of_isNameChar hname

private theorem IsCanonical.lower_render (h : p.IsCanonical) : Text.lower p.render = p.render := by
  have hascii : ∀ c ∈ p.render.toList, c.toNat < 0x80 := by
    intro c hc
    rcases h.mem_render hc with rfl | ⟨hname, -⟩
    · decide
    · exact (visible_of_isNameChar hname).2.trans (by decide)
  have hlower : ∀ c ∈ p.render.toList, c.toLower = id c := by
    intro c hc
    rcases h.mem_render hc with rfl | ⟨-, hlower⟩
    · decide
    · exact hlower
  apply String.toList_inj.mp
  rw [Text.lower, String.toList_ofList, Text.lowerFrom_of_ascii hascii, List.map_congr_left hlower,
    List.map_id]

private theorem IsCanonical.nonBlank?_render (h : p.IsCanonical) :
    Text.nonBlank? p.render = some p.render := by
  rw [Text.nonBlank?_eq_some_iff, h.trim_render]
  refine ⟨fun hempty ↦ ?_, rfl⟩
  have hparts := h.isPlain.splitOn_render
  rw [hempty] at hparts
  exact absurd (congrArg List.length hparts) (by simp [Text.splitOn, parts])

private theorem entries_intercalate (h : ∀ p ∈ ps, p.IsCanonical) :
    (Text.splitOn ',' (",".intercalate (ps.map render))).filterMap Text.nonBlank? =
      ps.map render := by
  cases hps : ps with
  | nil => decide
  | cons q rest =>
    have hcomma : ∀ name ∈ ps.map render, ',' ∉ name.toList := by
      rw [List.forall_mem_map]
      intro p hp hmem
      rcases (h p hp).mem_render hmem with hc | ⟨hc, -⟩
      · cases hc
      · cases hc
    have hsplit : Text.splitOn ',' (",".intercalate (ps.map render)) = ps.map render :=
      Text.splitOn_intercalate rfl (by simp [hps]) hcomma
    rw [← hps, hsplit, List.filterMap_map, ← List.filterMap_eq_map]
    refine List.filterMap_congr fun p hp ↦ ?_
    rw [Function.comp_apply, (h p hp).nonBlank?_render, Function.comp_apply]

/-! ### Reading -/

/-- Names pass all checks of single components. -/
theorem find?_eq_none_iff_isName :
    ("" ∉ components ∧ components.find? (fun part ↦ !part.toList.all isNameChar) = none) ↔
      ∀ name ∈ components, IsName name := by
  rw [List.find?_eq_none]
  constructor
  · rintro ⟨hempty, hchars⟩ name hmem
    refine isName_iff.mpr ⟨fun he ↦ hempty (he ▸ hmem), ?_⟩
    simpa using hchars name hmem
  · intro h
    refine ⟨fun hmem ↦ (h "" hmem).1 rfl, fun name hmem ↦ ?_⟩
    rw [(isName_iff.mp (h name hmem)).2]
    decide

section

variable [Machine]

private theorem isCanonical_host_withSystem (h : os ∈ knownSystems) :
    ({ host with os } : Platform).IsCanonical := by
  have hhost : host.IsCanonical :=
    isCanonical_ofNames (by decide) (isName_iff.mpr ⟨Machine.ne_empty, Machine.isName⟩)
      fun _ h ↦ by cases h
  have hknown : ∀ os ∈ knownSystems, IsLowerName os ∧ os ≠ "macos" := by
    decide +kernel
  refine ⟨fun part hpart ↦ ?_, (hknown os h).2, hhost.architecture⟩
  obtain rfl | hpart := List.mem_cons.mp hpart
  · exact (hknown part h).1
  · exact hhost.names part (List.mem_cons_of_mem _ hpart)

/-- Names of a system, an architecture and perhaps a variant come to the platform that they
give. -/
theorem ofComponents_names (h : ∀ name ∈ os :: architecture :: variant.toList, IsName name) :
    ofComponents (os :: architecture :: variant.toList) =
      .ok (ofNames os architecture variant) := by
  obtain ⟨hempty, hfind⟩ := find?_eq_none_iff_isName.mpr h
  simp only [ofComponents.eq_def, if_neg hempty, hfind]
  cases variant with
  | none => rfl
  | some v => rfl

private theorem exists_ofComponents (hne : components ≠ []) (hlen : components.length ≤ 3)
    (h : ∀ name ∈ components, IsName name) : ∃ p, ofComponents components = .ok p := by
  match components, hne, hlen, h with
  | [name], _, _, h =>
    obtain ⟨hempty, hfind⟩ := find?_eq_none_iff_isName.mpr h
    rw [ofComponents, if_neg hempty, hfind]
    dsimp only
    split
    · exact ⟨_, rfl⟩
    · exact ⟨_, rfl⟩
  | [os, architecture], _, _, h => exact ⟨_, @ofComponents_names os architecture none _ h⟩
  | [os, architecture, v], _, _, h => exact ⟨_, @ofComponents_names os architecture (some v) _ h⟩

/-- Components that come to a platform are names, at most three of them, and the platform is
canonical. -/
theorem of_ofComponents (h : ofComponents components = .ok p) :
    components.length ≤ 3 ∧ (∀ name ∈ components, IsName name) ∧ p.IsCanonical := by
  unfold ofComponents at h
  split at h
  · cases h
  next hempty =>
  split at h
  · cases h
  next hfind =>
  have hname := find?_eq_none_iff_isName.mp ⟨hempty, hfind⟩
  have hnone : ∀ v ∈ (none : Option String), IsName v := fun _ h ↦ by cases h
  split at h
  · refine ⟨Nat.le_add_left 1 2, hname, ?_⟩
    split at h
    · next hknown =>
      cases h
      exact isCanonical_host_withSystem hknown
    · cases h
      exact isCanonical_ofNames (by decide) (hname _ (by simp)) hnone
  · cases h
    exact ⟨Nat.le_succ 2, hname,
      isCanonical_ofNames (hname _ (by simp)) (hname _ (by simp)) hnone⟩
  · cases h
    exact ⟨Nat.le_refl 3, hname, isCanonical_ofNames (hname _ (by simp)) (hname _ (by simp))
      (fun v hv ↦ hname v (by cases hv; simp))⟩
  · cases h

private theorem IsCanonical.ofComponents_parts (h : p.IsCanonical) : ofComponents p.parts = .ok p :=
  (ofComponents_names fun name hname ↦ (h.names name hname).isName).trans
    (congrArg Except.ok h.ofNames_eq)

/-- A canonical platform is read back from its name. -/
theorem IsCanonical.parse_render (h : p.IsCanonical) : parse p.render = .ok p := by
  simp only [parse, h.trim_render, h.lower_render, h.isPlain.splitOn_render, h.ofComponents_parts]

/-- What is read as a platform is canonical. -/
theorem isCanonical_of_parse (h : parse text = .ok p) : p.IsCanonical := by
  rw [parse] at h
  split at h
  · next hcomponents =>
    cases h
    exact (of_ofComponents hcomponents).2.2
  · cases h

/-- A text is read as a platform exactly when it is made of one to three names with slashes
between them, once it is trimmed and in lower case. -/
theorem exists_parse_iff :
    (∃ p, parse text = .ok p) ↔ ∃ names, Text.lower (Text.trim text) = "/".intercalate names ∧
      1 ≤ names.length ∧ names.length ≤ 3 ∧ ∀ name ∈ names, IsName name := by
  constructor
  · rintro ⟨p, h⟩
    rw [parse] at h
    split at h
    · next hcomponents =>
      obtain ⟨hlen, hnames, -⟩ := of_ofComponents hcomponents
      refine ⟨_, (Text.intercalate_splitOn rfl _).symm, ?_, hlen, hnames⟩
      exact List.length_pos_iff.mpr (by simp [Text.splitOn, List.splitOn_ne_nil])
    · cases h
  · rintro ⟨names, htext, hpos, hlen, hnames⟩
    have hne : names ≠ [] := List.length_pos_iff.mp hpos
    obtain ⟨p, hp⟩ := exists_ofComponents hne hlen hnames
    refine ⟨p, ?_⟩
    have hplain : ∀ name ∈ names, '/' ∉ name.toList := fun name hname ↦
      slash_not_mem_name (isName_iff.mp (hnames name hname)).2
    have hsplit : Text.splitOn '/' ("/".intercalate names) = names :=
      Text.splitOn_intercalate rfl hne hplain
    simp only [parse, htext, hsplit, hp]

/-! ### Lists of platforms -/

/-- Different canonical platforms are read back from their names with commas between them. -/
theorem parseList_intercalate (hnodup : ps.Nodup) (h : ∀ p ∈ ps, p.IsCanonical) :
    parseList (",".intercalate (ps.map render)) = .ok ps := by
  rw [parseList_eq_ok_iff, entries_intercalate h]
  refine ⟨ps, ?_, (eraseDups_eq_self hnodup).symm⟩
  rw [List.forall₂_map_left_iff, List.forall₂_same]
  exact fun p hp ↦ (h p hp).parse_render

/-- The platforms of a list are canonical. -/
theorem isCanonical_of_parseList (h : parseList list = .ok ps) : ∀ p ∈ ps, p.IsCanonical := by
  obtain ⟨all, hall, rfl⟩ := parseList_eq_ok_iff.mp h
  intro p hp
  obtain ⟨entry, hentry⟩ := exists_parse_of_mem hall (List.mem_eraseDups.mp hp)
  exact isCanonical_of_parse hentry

/-- Reading platforms comes to canonical forms. A text is a platform exactly when it is one to
three names with slashes between them, in any letter case and between blanks. The platform is
canonical, and its own name is read as the same platform. A list comes to the first occurrences
of the platforms of its entries; their names all differ, and the list of these names is read as
the same platforms. -/
theorem parse_canonical (text list : String) :
    ((∃ p, parse text = .ok p) ↔ ∃ names, Text.lower (Text.trim text) = "/".intercalate names ∧
        1 ≤ names.length ∧ names.length ≤ 3 ∧ ∀ name ∈ names, IsName name) ∧
      (∀ p, parse text = .ok p → p.IsCanonical ∧ parse p.render = .ok p) ∧
      ∀ ps, parseList list = .ok ps →
        (∃ all, List.Forall₂ (fun entry p ↦ parse entry = .ok p)
            ((Text.splitOn ',' list).filterMap Text.nonBlank?) all ∧ ps = all.eraseDups) ∧
          (ps.map render).Nodup ∧ parseList (",".intercalate (ps.map render)) = .ok ps := by
  refine ⟨exists_parse_iff, fun p h ↦ ?_, fun ps h ↦ ?_⟩
  · have hcanonical := isCanonical_of_parse h
    exact ⟨hcanonical, hcanonical.parse_render⟩
  · obtain ⟨hnodup, hnames⟩ := nodup_of_parseList h
    exact ⟨parseList_eq_ok_iff.mp h, hnames,
      parseList_intercalate hnodup (isCanonical_of_parseList h)⟩

end

/-- A system that is named alone, by an alias, and a list in which one platform is named twice. -/
theorem parse_canonical_aliases :
    let _ : Machine := .x86
    let p : Platform := ⟨"darwin", "amd64", none⟩
    let ps : List Platform := [⟨"linux", "arm64", none⟩, ⟨"linux", "arm", some "v7"⟩]
    parse " MacOS\t" = .ok p ∧ p.IsCanonical ∧ parse "darwin/amd64" = .ok p ∧
      parseList "aarch64, Linux/ARM/7 ,,linux/arm64/v8" = .ok ps ∧ (ps.map render).Nodup ∧
      parseList "linux/arm64,linux/arm/v7" = .ok ps := by
  intro _ p ps
  have hp : parse " MacOS\t" = .ok p := by decide +kernel
  have hps : parseList "aarch64, Linux/ARM/7 ,,linux/arm64/v8" = .ok ps := by decide +kernel
  obtain ⟨-, htext, hlist⟩ := parse_canonical " MacOS\t" "aarch64, Linux/ARM/7 ,,linux/arm64/v8"
  obtain ⟨hcanonical, hname⟩ := htext p hp
  obtain ⟨-, hnames, hback⟩ := hlist ps hps
  have hrender : p.render = "darwin/amd64" := by decide
  have hjoined : ",".intercalate (ps.map render) = "linux/arm64,linux/arm/v7" := by decide
  rw [hrender] at hname
  rw [hjoined] at hback
  exact ⟨hp, hcanonical, hname, hps, hnames, hback⟩

end ContainerBuild.Platform
