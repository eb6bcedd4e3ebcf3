import ContainerBuild.Proofs.CacheImport.Fields
import ContainerBuild.Proofs.FrontendOptions.Reading

/-!
# Blank options

An option that is blank is read as if it were not given: the manifest has its usual name, there are
no platforms and nothing to import. The target alone is looked up before it is known to be blank.
While a blank one stands in the map, no build argument names the target.
-/

namespace ContainerBuild

namespace Text

/-- A blank text gives nothing. -/
theorem nonBlank?_eq_none {s : String} (h : ∀ c ∈ s.toList, isBlank c = true) :
    nonBlank? s = none := by
  have htrim : trim s = "" := by
    apply String.toList_inj.mp
    rw [toList_trim, String.toList_empty, trimChars_eq_nil_iff]
    exact h
  rw [nonBlank?, htrim]
  rfl

private theorem filterMap_nonBlank?_splitOn {s : String} (h : ∀ c ∈ s.toList, isBlank c = true) :
    (splitOn ',' s).filterMap nonBlank? = [] := by
  have hcomma : ',' ∉ s.toList := fun hmem ↦ absurd (h _ hmem) (by decide)
  have hsingle : splitOn ',' s = [s] := by
    have := @splitOn_intercalate ',' "," rfl [s] (by simp) (by simpa using hcomma)
    rwa [String.intercalate_singleton] at this
  rw [hsingle]
  simp [nonBlank?_eq_none h]

end Text

namespace FrontendOptions

variable {opts : Dict String} {key value : String}

/-- The keys of the options that stand under no mark. -/
def plainKeys : List String := ["filename", "target", "platform", "cache-from", "cache-imports"]

/-- The target that the build arguments name: the first one that has the name of that argument, in
any letter case, unless it is blank. -/
def argumentTarget (buildArgs : Dict String) : Option String :=
  (valueIgnoringCase? targetArgument buildArgs.entries).bind Text.nonBlank?

/-! ## Part by part -/

private theorem read_erase {β : Type} (read : Option String → β)
    (hvalue : opts.get? key = some value) (hread : read (some value) = read none) (other : String) :
    read ((opts.erase key).get? other) = read (opts.get? other) := by
  rw [Dict.get?_erase]
  split
  · next h => rw [h, hvalue, hread]
  · rfl

/-- No plain key begins with a mark that none of them begins with. -/
theorem append_not_mem_plainKeys {mark : String}
    (hmark : ∀ k ∈ plainKeys, Text.dropLead? mark k = none) (name : String) :
    mark ++ name ∉ plainKeys := by
  intro hmem
  have hnone := hmark _ hmem
  rw [Text.dropLead?_eq_some_iff.mpr rfl] at hnone
  cases hnone

private theorem ofKind_erase {mark : String} (hmark : ∀ k ∈ plainKeys, Text.dropLead? mark k = none)
    (hkey : key ∈ plainKeys) (opts : Dict String) :
    ofKind mark (opts.erase key) = ofKind mark opts := by
  refine ofKind_congr fun name ↦ ?_
  rw [Dict.get?_erase, if_neg]
  rintro rfl
  exact append_not_mem_plainKeys hmark name hkey

private theorem targetOf_erase_target (opts buildArgs : Dict String) :
    targetOf (opts.erase "target") buildArgs = argumentTarget buildArgs := by
  rw [targetOf, Dict.get?_erase, if_pos rfl, argumentTarget]

private theorem targetOf_erase (h : key ≠ "target") (opts buildArgs : Dict String) :
    targetOf (opts.erase key) buildArgs = targetOf opts buildArgs := by
  rw [targetOf, targetOf, Dict.get?_erase, if_neg (Ne.symm h)]

/-! ## The whole map -/

private theorem parse_erase [Platform.Machine] (hkey : key ∈ plainKeys)
    (hvalue : opts.get? key = some value) (hblank : ∀ c ∈ value.toList, Text.isBlank c = true) :
    parse (opts.erase key) =
      (parse opts).map fun o ↦ { o with target := targetOf (opts.erase key) o.buildArgs } := by
  have hnone := Text.nonBlank?_eq_none hblank
  have hpieces := Text.filterMap_nonBlank?_splitOn hblank
  have hempty : (Text.splitOn ',' "").filterMap Text.nonBlank? = [] :=
    Text.filterMap_nonBlank?_splitOn (by simp)
  have hplatforms : Platform.parseList value = Platform.parseList "" := by
    rw [Platform.parseList, Platform.parseList, hpieces, hempty]
  have himports (references : Option String) :
      CacheImport.parse (some value) references = CacheImport.parse none references := by
    rw [CacheImport.parse_eq, CacheImport.parse_eq]
    simp [CacheImport.listed, hnone]
  have hreferences (imports : Option String) :
      CacheImport.parse imports (some value) = CacheImport.parse imports none := by
    rw [CacheImport.parse_eq, CacheImport.parse_eq]
    simp [CacheImport.ofReferences, hpieces, hempty]
  exact parse_congr (ofKind_erase (by decide) hkey opts) (ofKind_erase (by decide) hkey opts)
    (read_erase (fun o ↦ Platform.parseList (o.getD "")) hvalue hplatforms _)
    ((read_erase (CacheImport.parse · _) hvalue (himports _) _).trans
      (read_erase (CacheImport.parse _ ·) hvalue (hreferences _) _))
    (read_erase (·.bind Text.nonBlank?) hvalue hnone _)

/-- Options are read, or fail, in the same way with a blank option and without it, except for the
target. Without a blank target, a build argument may name one. So the options are the same exactly
when they cannot be read, or when no build argument names a target. -/
theorem parse_erase_of_blank [Platform.Machine] (hkey : key ∈ plainKeys)
    (hvalue : opts.get? key = some value) (hblank : ∀ c ∈ value.toList, Text.isBlank c = true) :
    (key ≠ "target" → parse (opts.erase key) = parse opts) ∧
      (key = "target" →
        parse (opts.erase key) =
            (parse opts).map (fun o ↦ { o with target := argumentTarget o.buildArgs }) ∧
          (parse (opts.erase key) = parse opts ↔
            ∀ o, parse opts = .ok o → argumentTarget o.buildArgs = none)) := by
  have heq := parse_erase hkey hvalue hblank
  constructor
  · intro hne
    rw [heq]
    cases hparse : parse opts with
    | error e => rfl
    | ok o =>
      obtain ⟨-, -, -, -, -, htarget⟩ := parse_eq_ok_iff.mp hparse
      refine congrArg Except.ok ?_
      simp only [targetOf_erase hne, ← htarget]
  · rintro rfl
    simp only [targetOf_erase_target] at heq
    refine ⟨heq, ?_⟩
    rw [heq]
    cases hparse : parse opts with
    | error e => simp [Except.map]
    | ok o =>
      obtain ⟨-, -, -, -, -, htarget⟩ := parse_eq_ok_iff.mp hparse
      have hnone : o.target = none := by
        rw [htarget, targetOf, hvalue]
        exact Text.nonBlank?_eq_none hblank
      have hself : { o with target := argumentTarget o.buildArgs } = o ↔
          argumentTarget o.buildArgs = none := by
        rw [← hnone]
        exact ⟨congrArg FrontendOptions.target, fun h ↦ by rw [h]⟩
      simpa [Except.map] using hself

/-- A blank name of the manifest, beside a build argument that names a target. -/
theorem parse_erase_of_blank_filename :
    let _ : Platform.Machine := .x86
    let opts : Dict String := .ofList
      [("filename", " \t"), ("label:team", "core"), ("build-arg:PYIMAGE_TARGET", "api")]
    opts.get? "filename" = some " \t" ∧ parse (opts.erase "filename") = parse opts ∧
      (parse opts).toOption.map (fun o ↦ (o.filename, o.target)) =
        some ("pyproject.toml", some "api") := by
  intro _ opts
  have hvalue : opts.get? "filename" = some " \t" := by decide
  have hblank : ∀ c ∈ " \t".toList, Text.isBlank c = true := List.all_eq_true.mp (by decide)
  refine ⟨hvalue, ?_, by decide +kernel⟩
  exact (parse_erase_of_blank (by decide) hvalue hblank).1 (by decide)

/-- A blank target hides the one that a build argument names. -/
theorem parse_erase_ne_of_blank :
    let _ : Platform.Machine := .x86
    let opts : Dict String := .ofList [("target", " "), ("build-arg:PYIMAGE_TARGET", "api")]
    (parse opts).toOption.map (·.target) = some none ∧
      (parse (opts.erase "target")).toOption.map (·.target) = some (some "api") ∧
      parse (opts.erase "target") ≠ parse opts := by
  intro _ opts
  have hblank : (parse opts).toOption.map (·.target) = some none := by decide +kernel
  have hnamed : (parse (opts.erase "target")).toOption.map (·.target) = some (some "api") := by
    decide +kernel
  refine ⟨hblank, hnamed, fun heq ↦ ?_⟩
  rw [heq, hblank] at hnamed
  cases hnamed

end FrontendOptions

end ContainerBuild
