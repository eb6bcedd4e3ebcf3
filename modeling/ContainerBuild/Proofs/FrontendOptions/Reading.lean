import ContainerBuild.FrontendOptions
import ContainerBuild.Proofs.Dict.Lookup
import ContainerBuild.Proofs.Dict.Merge

/-!
# Reading options

The options of a kind stand under its mark. They are read unless one of them has no name, and depend
on nothing else in the map. So two maps are read alike when their values for the few other options
are, and when they agree under the marks.
-/

namespace ContainerBuild.FrontendOptions

variable {opts opts' : Dict String} {mark name key value : String} {o : FrontendOptions}

/-- The entries of a map under a mark, without it. -/
def under (mark : String) (opts : Dict String) : Dict String :=
  .ofList (opts.entries.filterMap fun p ↦ (Text.dropLead? mark p.1).map (·, p.2))

/-! ## Options of a kind -/

private theorem marked_eq (mark : String) (l : List (String × String)) :
    marked mark l =
      if mark ∈ l.map Prod.fst then .error (.emptyName mark)
      else .ok (l.filterMap fun p ↦ (Text.dropLead? mark p.1).map (·, p.2)) := by
  induction l with
  | nil => rfl
  | cons p rest ih =>
    obtain ⟨key, value⟩ := p
    rw [marked, List.map_cons, List.filterMap_cons]
    cases hname : Text.dropLead? mark key with
    | none =>
      have hne : mark ≠ key := by
        rintro rfl
        have hself : Text.dropLead? mark mark = some "" :=
          Text.dropLead?_eq_some_iff.mpr String.append_empty.symm
        rw [hname] at hself
        cases hself
      simp only [ih, List.mem_cons, hne, false_or, Option.map_none]
    | some name =>
      have hkey := Text.dropLead?_eq_some_iff.mp hname
      by_cases hempty : name = ""
      · rw [hempty, String.append_empty] at hkey
        simp [hempty, hkey]
      · have hne : mark ≠ key := by
          rintro rfl
          exact hempty (String.append_eq_left_iff.mp hkey.symm)
        simp only [if_neg hempty, ih, List.mem_cons, hne, false_or, Option.map_some]
        split <;> rfl

/-- What stands under a mark has the value of its key with the mark in front. -/
theorem get?_under (mark : String) (opts : Dict String) (name : String) :
    (under mark opts).get? name = opts.get? (mark ++ name) := by
  set named := opts.entries.filterMap fun p ↦ (Text.dropLead? mark p.1).map (·, p.2) with hnamed
  have hmem (p : String × String) : p ∈ named ↔ (mark ++ p.1, p.2) ∈ opts.entries := by
    rw [hnamed, List.mem_filterMap]
    constructor
    · rintro ⟨⟨key, value⟩, hentry, hp⟩
      obtain ⟨name, hname, rfl⟩ := Option.map_eq_some_iff.mp hp
      obtain rfl : key = mark ++ name := Text.dropLead?_eq_some_iff.mp hname
      exact hentry
    · intro hentry
      exact ⟨_, hentry, by rw [Text.dropLead?_eq_some_iff.mpr rfl]; rfl⟩
  have hnodup : (named.map Prod.fst).Nodup := by
    have hkeys : named.map Prod.fst = opts.keys.filterMap (Text.dropLead? mark) := by
      rw [hnamed, List.map_filterMap, Dict.keys, List.filterMap_map]
      congr 1
      funext p
      simp [Function.comp_def]
    rw [hkeys]
    refine opts.nodup_keys.filterMap fun key key' name hname hname' ↦ ?_
    rw [Text.dropLead?_eq_some_iff.mp hname, Text.dropLead?_eq_some_iff.mp hname']
  apply Option.ext
  intro value
  rw [← Dict.mem_entries_iff_get?, ← Dict.mem_entries_iff_get?, under, ← hnamed, Dict.ofList,
    Dict.mem_entries_insertAll hnodup, hmem]
  simp

/-- The options of a kind are those under its mark, unless one of them has no name. -/
theorem ofKind_eq (mark : String) (opts : Dict String) :
    ofKind mark opts =
      if (opts.get? mark).isSome then .error (.emptyName mark) else .ok (under mark opts) := by
  have hmem : mark ∈ opts.keys ↔ (opts.get? mark).isSome = true := by
    constructor
    · intro h
      obtain ⟨value, hvalue, -⟩ := Dict.exists_get?_of_mem_keys h
      rw [hvalue]
      rfl
    · intro h
      obtain ⟨value, hvalue⟩ := Option.isSome_iff_exists.mp h
      exact List.mem_map_of_mem (Dict.mem_entries_iff_get?.mpr hvalue)
  rw [ofKind, marked_eq, ← Dict.keys]
  by_cases h : mark ∈ opts.keys
  · rw [if_pos h, if_pos (hmem.mp h)]
    rfl
  · rw [if_neg h, if_neg (h ∘ hmem.mpr)]
    rfl

/-- The options of a kind depend on the values under its mark only. -/
theorem ofKind_congr (h : ∀ name, opts'.get? (mark ++ name) = opts.get? (mark ++ name)) :
    ofKind mark opts' = ofKind mark opts := by
  have hmark : opts'.get? mark = opts.get? mark := by
    have := h ""
    rwa [String.append_empty] at this
  have hunder : under mark opts' = under mark opts :=
    Dict.eq_of_get?_eq fun name ↦ by rw [get?_under, get?_under, h]
  rw [ofKind_eq, ofKind_eq, hmark, hunder]

/-! ## The whole map -/

variable [Platform.Machine]

/-- Options are read when each part of them is. -/
theorem parse_eq_ok_iff :
    parse opts = .ok o ↔
      ofKind "build-arg:" opts = .ok o.buildArgs ∧ ofKind "label:" opts = .ok o.labels ∧
        Platform.parseList ((opts.get? "platform").getD "") = .ok o.platforms ∧
        CacheImport.parse (opts.get? "cache-imports") (opts.get? "cache-from") =
          .ok o.cacheImports ∧
        o.filename = ((opts.get? "filename").bind Text.nonBlank?).getD defaultFilename ∧
        o.target = targetOf opts o.buildArgs := by
  obtain ⟨filename, target, platforms, buildArgs, labels, imports⟩ := o
  simp only [parse, bind, Except.bind, pure, Except.pure]
  cases ofKind "build-arg:" opts with
  | error e => simp
  | ok buildArgs =>
    cases ofKind "label:" opts with
    | error e => simp
    | ok labels =>
      cases Platform.parseList ((opts.get? "platform").getD "") with
      | error e => simp
      | ok platforms =>
        cases CacheImport.parse (opts.get? "cache-imports") (opts.get? "cache-from") with
        | error e => simp
        | ok imports =>
          simp only [Except.ok.injEq, FrontendOptions.mk.injEq]
          constructor
          · rintro ⟨rfl, rfl, rfl, rfl, rfl, rfl⟩
            exact ⟨rfl, rfl, rfl, rfl, rfl, rfl⟩
          · rintro ⟨rfl, rfl, rfl, rfl, rfl, rfl⟩
            exact ⟨rfl, rfl, rfl, rfl, rfl, rfl⟩

/-- Maps of which each part but the target is read alike are read alike, or fail alike. -/
theorem parse_congr (hargs : ofKind "build-arg:" opts' = ofKind "build-arg:" opts)
    (hlabels : ofKind "label:" opts' = ofKind "label:" opts)
    (hplatforms : Platform.parseList ((opts'.get? "platform").getD "") =
      Platform.parseList ((opts.get? "platform").getD ""))
    (himports : CacheImport.parse (opts'.get? "cache-imports") (opts'.get? "cache-from") =
      CacheImport.parse (opts.get? "cache-imports") (opts.get? "cache-from"))
    (hfilename : (opts'.get? "filename").bind Text.nonBlank? =
      (opts.get? "filename").bind Text.nonBlank?) :
    parse opts' = (parse opts).map fun o ↦ { o with target := targetOf opts' o.buildArgs } := by
  simp only [parse, hargs, hlabels, hplatforms, himports, hfilename, bind, Except.bind, pure,
    Except.pure]
  cases ofKind "build-arg:" opts with
  | error e => rfl
  | ok buildArgs =>
    cases ofKind "label:" opts with
    | error e => rfl
    | ok labels =>
      cases Platform.parseList ((opts.get? "platform").getD "") with
      | error e => rfl
      | ok platforms =>
        cases CacheImport.parse (opts.get? "cache-imports") (opts.get? "cache-from") <;> rfl

end ContainerBuild.FrontendOptions
