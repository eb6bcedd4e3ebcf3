import ContainerBuild.Platform
import ContainerBuild.Proofs.List.FirstOccurrences
import ContainerBuild.Proofs.Text.Words
import Mathlib.Data.List.Forall2

/-!
# Names of platforms

A platform is named by its parts with slashes between them. A text is read into parts without
slashes, and under the registry names of its aliases. So the platforms that a list comes to have
names of their own, one for each.
-/

namespace ContainerBuild

namespace Text

/-- Away from other scripts, each letter has its lower case whatever stands around it. -/
theorem lowerFrom_of_ascii {s : List Char} (h : ∀ c ∈ s, c.toNat < 0x80) (before : List Char) :
    lowerFrom before s = s.map Char.toLower := by
  induction s generalizing before with
  | nil => rfl
  | cons c s ih =>
    rw [List.forall_mem_cons] at h
    have hsigma : c ≠ 'Σ' := by
      rintro rfl
      exact absurd h.1 (by decide)
    simp only [lowerFrom, if_neg hsigma, lowerChar, if_pos h.1, ih h.2, List.map_cons,
      List.singleton_append]

end Text

namespace Platform

variable {p q : Platform} {s os architecture : String} {variant : Option String}

/-- The parts of a platform's name. -/
def parts (p : Platform) : List String := p.os :: p.architecture :: p.variant.toList

/-- Whether no part of a platform's name is divided by a slash. -/
def IsPlain (p : Platform) : Prop := ∀ part ∈ p.parts, '/' ∉ part.toList

/-- The name of a platform is made from its parts. -/
theorem render_eq (p : Platform) : p.render = "/".intercalate p.parts := by
  obtain ⟨os, architecture, variant⟩ := p
  cases variant <;> simp [render, parts, String.intercalate_cons_cons, String.append_assoc]

/-- A name is divided at its slashes into the parts, when they have none themselves. -/
theorem IsPlain.splitOn_render (h : p.IsPlain) : Text.splitOn '/' p.render = p.parts := by
  rw [render_eq, Text.splitOn_intercalate rfl (by simp [parts]) h]

/-- Platforms with the same parts are the same. -/
theorem eq_of_parts_eq (h : p.parts = q.parts) : p = q := by
  obtain ⟨os, architecture, variant⟩ := p
  obtain ⟨os', architecture', variant'⟩ := q
  cases variant <;> cases variant' <;> simp_all [parts]

/-- Platforms without slashes in their parts have different names. -/
theorem render_inj (hp : p.IsPlain) (hq : q.IsPlain) : p.render = q.render ↔ p = q := by
  refine ⟨fun h ↦ eq_of_parts_eq ?_, congrArg render⟩
  rw [← hp.splitOn_render, h, hq.splitOn_render]

/-! ### Reading platforms -/

/-- The characters of a name are visible ASCII characters. -/
theorem visible_of_isNameChar {c : Char} (h : isNameChar c = true) :
    0x20 < c.toNat ∧ c.toNat < 0x7F := by
  simp only [isNameChar, Text.isDigit, Bool.or_eq_true, Bool.and_eq_true, decide_eq_true_eq,
    Char.le_def, UInt32.le_iff_toNat_le] at h
  simp only [Char.reduceVal, UInt32.reduceToNat] at h
  have hval : c.toNat = c.val.toNat := rfl
  rw [hval]
  rcases h with (((h | h) | h) | rfl) | rfl
  · omega
  · omega
  · omega
  · decide
  · decide

private theorem eq_slash_of_toLower {c : Char} (h : c.toLower = '/') : c = '/' := by
  delta Char.toLower at h
  split at h
  · next hc =>
    have hlow := UInt32.le_iff_toNat_le.mp hc.1
    have hhigh := UInt32.le_iff_toNat_le.mp hc.2
    have hval := congrArg (fun c : Char ↦ c.val.toNat) h
    simp at hval hlow hhigh
    omega
  · exact h

/-- A name is not divided by a slash. -/
theorem slash_not_mem_name (h : s.toList.all isNameChar = true) : '/' ∉ s.toList := fun hmem ↦
  absurd (List.all_eq_true.mp h _ hmem) (by decide)

private theorem slash_not_mem_lower (h : s.toList.all isNameChar = true) :
    '/' ∉ (Text.lower s).toList := by
  have hname : ∀ c ∈ s.toList, isNameChar c = true := List.all_eq_true.mp h
  have hascii : ∀ c ∈ s.toList, c.toNat < 0x80 := fun c hc ↦
    (visible_of_isNameChar (hname c hc)).2.trans (by decide)
  rw [Text.lower, Text.lowerFrom_of_ascii hascii, String.toList_ofList]
  intro hmem
  obtain ⟨c, hc, hlower⟩ := List.mem_map.mp hmem
  rw [eq_slash_of_toLower hlower] at hc
  exact slash_not_mem_name h hc

/-- The registry name of a system is not divided when its own name is not. -/
theorem slash_not_mem_systemName (h : '/' ∉ os.toList) : '/' ∉ (systemName os).toList := by
  rw [systemName]
  split
  · decide
  · exact h

/-- The names that aliases of architectures and variants are replaced by. -/
def registryNames : List String := ["amd64", "arm64", "arm", "386", "v5", "v6", "v7", "v8"]

/-- What holds of the names that aliases are replaced by, and of an architecture and a variant,
holds of their registry names. -/
theorem forall_architectureName {P : String → Prop} (hfixed : ∀ name ∈ registryNames, P name)
    (ha : P architecture) (hv : ∀ v ∈ variant, P v) :
    P (architectureName architecture variant).1 ∧
      ∀ v ∈ (architectureName architecture variant).2, P v := by
  simp only [registryNames, List.forall_mem_cons] at hfixed
  obtain ⟨hamd64, harm64, harm, h386, hv5, hv6, hv7, hv8, -⟩ := hfixed
  have hdrop (b : Bool) : ∀ v ∈ if b then none else variant, P v := by
    cases b with
    | true => exact fun _ h ↦ by cases h
    | false => exact hv
  have hsome {v : String} (h : P v) : ∀ w ∈ some v, P w := fun w hw ↦ Option.some.inj hw ▸ h
  unfold architectureName
  split
  · exact ⟨hamd64, by simpa using hdrop (variant = some "v1")⟩
  split
  · exact ⟨harm64, by simpa using hdrop (variant ∈ [some "8", some "v8"])⟩
  split
  · exact ⟨harm, hsome hv7⟩
  split
  · exact ⟨harm, hsome hv6⟩
  split
  · cases variant with
    | none => exact ⟨harm, hsome hv7⟩
    | some v =>
      refine ⟨harm, hsome ?_⟩
      split
      · next hdigit =>
        have hnumbered : ∀ digit ∈ ["5", "6", "7", "8"], P ("v" ++ digit) := by
          simp only [List.forall_mem_cons]
          exact ⟨hv5, hv6, hv7, hv8, fun _ h ↦ by cases h⟩
        exact hnumbered v hdigit
      · exact hv v rfl
  split
  · exact ⟨h386, fun _ h ↦ by cases h⟩
  · exact ⟨ha, hv⟩

private theorem slash_not_mem_architectureName (ha : '/' ∉ architecture.toList)
    (hv : ∀ v ∈ variant, '/' ∉ v.toList) :
    '/' ∉ (architectureName architecture variant).1.toList ∧
      ∀ v ∈ (architectureName architecture variant).2, '/' ∉ v.toList :=
  forall_architectureName (P := fun name ↦ '/' ∉ name.toList) (by decide) ha hv

/-- A platform that is given by names has no slash in its parts. -/
theorem isPlain_ofNames (hos : os.toList.all isNameChar = true)
    (ha : architecture.toList.all isNameChar = true)
    (hv : ∀ v ∈ variant, v.toList.all isNameChar = true) :
    (ofNames os architecture variant).IsPlain := by
  have hvariant : ∀ v ∈ variant.map Text.lower, '/' ∉ v.toList := by
    intro v h
    obtain ⟨w, hw, rfl⟩ := Option.map_eq_some_iff.mp h
    exact slash_not_mem_lower (hv w hw)
  obtain ⟨harch, hvar⟩ := slash_not_mem_architectureName (slash_not_mem_lower ha) hvariant
  intro part hpart
  rw [parts, List.mem_cons, List.mem_cons, Option.mem_toList] at hpart
  obtain rfl | rfl | hpart := hpart
  · exact slash_not_mem_systemName (slash_not_mem_lower hos)
  · exact harch
  · exact hvar part hpart

private theorem IsPlain.withSystem (h : p.IsPlain) (hos : '/' ∉ os.toList) :
    IsPlain { p with os } := by
  intro part hpart
  obtain rfl | hpart := List.mem_cons.mp hpart
  · exact hos
  · exact h part (List.mem_cons_of_mem _ hpart)

section

variable [Machine]

private theorem isPlain_host : host.IsPlain :=
  isPlain_ofNames (by decide) Machine.isName fun _ h ↦ by cases h

private theorem isPlain_of_ofComponents {components : List String}
    (h : ofComponents components = .ok p) : p.IsPlain := by
  unfold ofComponents at h
  split at h
  · cases h
  split at h
  · cases h
  next hfind =>
  have hname : ∀ part ∈ components, part.toList.all isNameChar = true := by
    simpa using hfind
  split at h
  · have hname := hname _ List.mem_cons_self
    split at h
    · cases h
      exact isPlain_host.withSystem (slash_not_mem_systemName (slash_not_mem_name hname))
    · cases h
      exact isPlain_ofNames (by decide) hname (fun _ h ↦ by cases h)
  · cases h
    exact isPlain_ofNames (hname _ (by simp)) (hname _ (by simp)) (fun _ h ↦ by cases h)
  · cases h
    exact isPlain_ofNames (hname _ (by simp)) (hname _ (by simp))
      (fun v hv ↦ hname v (by cases hv; simp))
  · cases h

/-- A text is read as a platform without slashes in its parts. -/
theorem isPlain_of_parse {text : String} (h : parse text = .ok p) : p.IsPlain := by
  rw [parse] at h
  split at h
  · next hcomponents =>
    cases h
    exact isPlain_of_ofComponents hcomponents
  · cases h

section

-- the equation holds whatever an entry is read as
attribute [local irreducible] parse

private theorem parseAll_cons (entry : String) (rest : List String) :
    parseAll (entry :: rest) =
      match parse entry with
      | .error e => .error e
      | .ok p => (parseAll rest).map (p :: ·) := rfl

end

/-- A list is read when each of its entries is. -/
theorem parseAll_eq_ok_iff {entries : List String} {ps : List Platform} :
    parseAll entries = .ok ps ↔ List.Forall₂ (fun entry p ↦ parse entry = .ok p) entries ps := by
  induction entries generalizing ps with
  | nil => rw [parseAll, Except.ok.injEq, List.forall₂_nil_left_iff, eq_comm]
  | cons entry rest ih =>
    rw [parseAll_cons, List.forall₂_cons_left_iff]
    simp only [← ih]
    cases parse entry with
    | error e => simp
    | ok p => cases parseAll rest <;> simp [Except.map, eq_comm]

/-- What is among the platforms of a list is read from one of its entries. -/
theorem exists_parse_of_mem {entries : List String} {all : List Platform}
    (h : List.Forall₂ (fun entry p ↦ parse entry = .ok p) entries all) (hp : p ∈ all) :
    ∃ entry, parse entry = .ok p := by
  induction h with
  | nil => cases hp
  | cons hentry _ ih =>
    rcases List.mem_cons.mp hp with rfl | hp
    · exact ⟨_, hentry⟩
    · exact ih hp

/-- The platforms that a list is read as are the first occurrences of what its entries that are
not blank are read as. -/
theorem parseList_eq_ok_iff {list : String} {ps : List Platform} :
    parseList list = .ok ps ↔ ∃ all, List.Forall₂ (fun entry p ↦ parse entry = .ok p)
      ((Text.splitOn ',' list).filterMap Text.nonBlank?) all ∧ ps = all.eraseDups := by
  simp only [parseList, ← parseAll_eq_ok_iff]
  cases parseAll ((Text.splitOn ',' list).filterMap Text.nonBlank?) with
  | error e => simp [Except.map]
  | ok all => simp [Except.map, eq_comm]

/-- The platforms of a list have no slash in their parts. -/
theorem isPlain_of_parseList {list : String} {ps : List Platform} (h : parseList list = .ok ps) :
    ∀ p ∈ ps, p.IsPlain := by
  obtain ⟨all, hall, rfl⟩ := parseList_eq_ok_iff.mp h
  intro p hp
  obtain ⟨entry, hentry⟩ := exists_parse_of_mem hall (List.mem_eraseDups.mp hp)
  exact isPlain_of_parse hentry

/-- A list is read as platforms that differ, and so do their names. -/
theorem nodup_of_parseList {list : String} {ps : List Platform} (h : parseList list = .ok ps) :
    ps.Nodup ∧ (ps.map render).Nodup := by
  have hplain := isPlain_of_parseList h
  obtain ⟨all, -, rfl⟩ := parseList_eq_ok_iff.mp h
  refine ⟨nodup_eraseDups all, (List.nodup_map_iff_inj_on (nodup_eraseDups all)).mpr ?_⟩
  exact fun p hp q hq heq ↦ (render_inj (hplain p hp) (hplain q hq)).mp heq

end

end Platform

end ContainerBuild
