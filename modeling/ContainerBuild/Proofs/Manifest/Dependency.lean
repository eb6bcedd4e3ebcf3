import ContainerBuild.Manifest.Decode
import Mathlib.Logic.Basic

/-!
# How a dependency is read

A dependency is a text, or a table with a version or a repository. The fields of the table are
checked one by one, and each of them is a text or a list. The items of that list are not checked:
one that is no text is passed over, and then the dependency holds fewer extras than its table. In
every other case a dependency is read exactly when the value has the shape of one, and holds what
the value holds.
-/

namespace ContainerBuild.PoetryDependency

open Toml (Value)

variable {entries : List (String × Value)} {items : List Value} {v : Value}
  {d : PoetryDependency} {version git rev value : Option String} {extras texts : List String}
  {name : String}

/-! ## Shapes -/

/-- Whether a value is an array of texts. -/
def IsTexts (v : Value) : Prop := ∃ texts : List String, v = .array (texts.map .text)

/-- Whether an entry of a table is a text, if it is there. -/
def IsTextAt (entries : List (String × Value)) (name : String) : Prop :=
  ∀ v, entries.lookup name = some v → ∃ s, v = .text s

/-- Whether a table has a version or a repository, and version, repository and revision are
texts where they are there. -/
structure NamesSource (entries : List (String × Value)) : Prop where
  source : entries.lookup "version" ≠ none ∨ entries.lookup "git" ≠ none
  version : IsTextAt entries "version"
  git : IsTextAt entries "git"
  rev : IsTextAt entries "rev"

/-- The shape of a dependency. -/
inductive IsDependency : Value → Prop
  | text (s : String) : IsDependency (.text s)
  | table {entries : List (String × Value)} (source : NamesSource entries)
    (extras : ∀ v, entries.lookup "extras" = some v → IsTexts v) : IsDependency (.table entries)

/-- A dependency holds exactly what a value does: the text, or the entries of the table, with
every extra in its place. -/
inductive Holds : Value → PoetryDependency → Prop
  | text (s : String) : Holds (.text s) (.bare s)
  | table {entries : List (String × Value)} {version git rev : Option String}
    {extras : List String} (version_eq : entries.lookup "version" = version.map .text)
    (git_eq : entries.lookup "git" = git.map .text)
    (rev_eq : entries.lookup "rev" = rev.map .text)
    (extras_eq : (entries.lookup "extras").getD (.array []) = .array (extras.map .text)) :
    Holds (.table entries) (.detailed version git rev extras)

/-- Whether a table that names a source has an extra that is no text. -/
def HasStrayExtra (v : Value) : Prop :=
  ∃ entries items, v = .table entries ∧ NamesSource entries ∧
    entries.lookup "extras" = some (.array items) ∧ ∃ item ∈ items, ∀ s, item ≠ .text s

/-! ## The written form -/

/-- The entry of a field, if it is there. -/
def fieldEntry (name : String) (value : Option Value) : List (String × Value) :=
  (value.map fun v ↦ (name, v)).toList

/-- A dependency as it is written: without the fields that are missing, and without extras when
there are none. -/
def toToml : PoetryDependency → Value
  | .bare s => .text s
  | .detailed version git rev extras =>
    .table (fieldEntry "version" (version.map .text) ++ fieldEntry "git" (git.map .text) ++
      fieldEntry "rev" (rev.map .text) ++
      fieldEntry "extras" (if extras.isEmpty then none else some (.array (extras.map .text))))

/-! ## Fields -/

/-- A field is read exactly when it is a text or missing. -/
theorem textField_eq_ok_iff :
    textField entries name = .ok value ↔ entries.lookup name = value.map .text := by
  rw [textField]
  split
  · next h => cases value <;> simp [h]
  · next s h => cases value <;> simp [h]
  · next w hw h =>
    rw [h]
    constructor
    · intro hread
      cases hread
    · intro htext
      cases value with
      | none => cases htext
      | some s => exact absurd (Option.some.inj htext) (hw s)

private theorem lookup_ne_none_iff (h : textField entries name = .ok value) :
    entries.lookup name ≠ none ↔ value ≠ none := by
  rw [textField_eq_ok_iff.mp h, ne_eq, Option.map_eq_none_iff]

private theorem exists_textField_eq_ok_iff :
    (∃ value, textField entries name = .ok value) ↔ IsTextAt entries name := by
  simp only [textField_eq_ok_iff, IsTextAt]
  constructor
  · rintro ⟨value, hvalue⟩ v hv
    rw [hv] at hvalue
    obtain ⟨s, -, hs⟩ := Option.map_eq_some_iff.mp hvalue.symm
    exact ⟨s, hs.symm⟩
  · intro h
    cases hlookup : entries.lookup name with
    | none => exact ⟨none, rfl⟩
    | some v =>
      obtain ⟨s, rfl⟩ := h v hlookup
      exact ⟨some s, rfl⟩

/-- A text is kept. -/
theorem textsAmong_cons_text (s : String) (items : List Value) :
    textsAmong (.text s :: items) = s :: textsAmong items := rfl

/-- Texts are all kept. -/
@[simp] theorem textsAmong_map_text (texts : List String) :
    textsAmong (texts.map .text) = texts := by
  induction texts with
  | nil => rfl
  | cons s texts ih => rw [List.map_cons, textsAmong_cons_text, ih]

/-- Values are kept as they are exactly when all of them are texts. -/
theorem map_textsAmong_iff :
    (textsAmong items).map .text = items ↔ ∀ item ∈ items, ∃ s, item = .text s := by
  constructor
  · intro h item hitem
    rw [← h] at hitem
    obtain ⟨s, -, rfl⟩ := List.mem_map.mp hitem
    exact ⟨s, rfl⟩
  · intro h
    induction items with
    | nil => rfl
    | cons item items ih =>
      obtain ⟨⟨s, rfl⟩, hrest⟩ := List.forall_mem_cons.mp h
      rw [textsAmong_cons_text, List.map_cons, ih hrest]

/-- Values are texts one by one exactly when they are an array of texts. -/
theorem isTexts_array_iff : IsTexts (.array items) ↔ ∀ item ∈ items, ∃ s, item = .text s := by
  rw [← map_textsAmong_iff]
  constructor
  · rintro ⟨texts, h⟩
    rw [Value.array.inj h, textsAmong_map_text]
  · exact fun h ↦ ⟨textsAmong items, congrArg Value.array h.symm⟩

/-- The extras are the texts of an array, or none when there is no such field. -/
theorem extrasField_eq_ok_iff : extrasField entries = .ok extras ↔
    ∃ items, (entries.lookup "extras").getD (.array []) = .array items ∧
      extras = textsAmong items := by
  rw [extrasField]
  split
  · next h =>
    rw [h]
    constructor
    · intro hread
      cases hread
      exact ⟨[], rfl, rfl⟩
    · rintro ⟨items, hitems, rfl⟩
      cases hitems
      rfl
  · next items h =>
    rw [h]
    constructor
    · intro hread
      cases hread
      exact ⟨items, rfl, rfl⟩
    · rintro ⟨items, hitems, rfl⟩
      cases hitems
      rfl
  · next w hw h =>
    rw [h]
    constructor
    · intro hread
      cases hread
    · rintro ⟨items, hitems, rfl⟩
      exact absurd hitems (hw items)

private theorem exists_extrasField_eq_ok_iff : (∃ extras, extrasField entries = .ok extras) ↔
    ∀ v, entries.lookup "extras" = some v → ∃ items, v = .array items := by
  simp only [extrasField_eq_ok_iff]
  constructor
  · rintro ⟨extras, items, hitems, -⟩ v hv
    rw [hv] at hitems
    exact ⟨items, hitems⟩
  · intro h
    cases hlookup : entries.lookup "extras" with
    | none => exact ⟨_, [], rfl, rfl⟩
    | some v =>
      obtain ⟨items, rfl⟩ := h v hlookup
      exact ⟨_, items, rfl, rfl⟩

/-! ## Tables -/

private theorem bind_eq_ok_iff {ε α β : Type} {x : Except ε α} {f : α → Except ε β} {b : β} :
    x >>= f = .ok b ↔ ∃ a, x = .ok a ∧ f a = .ok b := by
  cases x <;> simp [bind, Except.bind]

/-- What is read of a table: its three texts, and of its extras those that are texts. -/
theorem ofToml_table_eq_ok_iff : ofToml (.table entries) = .ok d ↔
    ∃ version git rev extras, d = .detailed version git rev extras ∧
      textField entries "version" = .ok version ∧ textField entries "git" = .ok git ∧
      textField entries "rev" = .ok rev ∧ extrasField entries = .ok extras ∧
      (version ≠ none ∨ git ≠ none) := by
  have hnone (version git : Option String) :
      (version.isNone && git.isNone) = true ↔ ¬ (version ≠ none ∨ git ≠ none) := by
    cases version <;> cases git <;> simp
  simp only [ofToml, bind_eq_ok_iff, hnone]
  constructor
  · rintro ⟨extras, hextras, version, hversion, git, hgit, rev, hrev, hd⟩
    split at hd
    · cases hd
    · next hsource =>
      cases hd
      exact ⟨version, git, rev, extras, rfl, hversion, hgit, hrev, hextras, not_not.mp hsource⟩
  · rintro ⟨version, git, rev, extras, rfl, hversion, hgit, hrev, hextras, hsource⟩
    exact ⟨extras, hextras, version, hversion, git, hgit, rev, hrev, if_neg (not_not.mpr hsource)⟩

/-- A table is read exactly when it names a source and its extras, if it has any, are an array of
whatever items. -/
theorem exists_ofToml_table_iff : (∃ d, ofToml (.table entries) = .ok d) ↔
    NamesSource entries ∧ ∀ v, entries.lookup "extras" = some v → ∃ items, v = .array items := by
  constructor
  · rintro ⟨d, hd⟩
    obtain ⟨version, git, rev, extras, -, hversion, hgit, hrev, hextras, hsource⟩ :=
      ofToml_table_eq_ok_iff.mp hd
    have hnamed := hsource.imp (lookup_ne_none_iff hversion).mpr (lookup_ne_none_iff hgit).mpr
    exact ⟨⟨hnamed, exists_textField_eq_ok_iff.mp ⟨_, hversion⟩,
      exists_textField_eq_ok_iff.mp ⟨_, hgit⟩, exists_textField_eq_ok_iff.mp ⟨_, hrev⟩⟩,
      exists_extrasField_eq_ok_iff.mp ⟨_, hextras⟩⟩
  · rintro ⟨⟨hsource, hversion, hgit, hrev⟩, hextras⟩
    obtain ⟨version, hversion⟩ := exists_textField_eq_ok_iff.mpr hversion
    obtain ⟨git, hgit⟩ := exists_textField_eq_ok_iff.mpr hgit
    obtain ⟨rev, hrev⟩ := exists_textField_eq_ok_iff.mpr hrev
    have hgiven := hsource.imp (lookup_ne_none_iff hversion).mp (lookup_ne_none_iff hgit).mp
    obtain ⟨extras, hextras⟩ := exists_extrasField_eq_ok_iff.mpr hextras
    exact ⟨_, ofToml_table_eq_ok_iff.mpr
      ⟨version, git, rev, extras, rfl, hversion, hgit, hrev, hextras, hgiven⟩⟩

private theorem holds_iff_of_ofToml_table (h : ofToml (.table entries) = .ok d) :
    Holds (.table entries) d ↔ ∀ v, entries.lookup "extras" = some v → IsTexts v := by
  obtain ⟨version, git, rev, extras, rfl, hversion, hgit, hrev, hextras, -⟩ :=
    ofToml_table_eq_ok_iff.mp h
  obtain ⟨items, hitems, rfl⟩ := extrasField_eq_ok_iff.mp hextras
  constructor
  · intro hholds v hv
    cases hholds with
    | table _ _ _ hall =>
      rw [hv] at hall
      exact ⟨_, hall⟩
  · intro hall
    refine .table (textField_eq_ok_iff.mp hversion) (textField_eq_ok_iff.mp hgit)
      (textField_eq_ok_iff.mp hrev) ?_
    rw [hitems, Value.array.injEq, eq_comm, map_textsAmong_iff, ← isTexts_array_iff]
    cases hlookup : entries.lookup "extras" with
    | none =>
      rw [hlookup] at hitems
      exact hitems ▸ ⟨[], rfl⟩
    | some v =>
      rw [hlookup] at hitems
      exact hitems ▸ hall v hlookup

/-! ## Values -/

/-- A table with a stray extra has no shape of a dependency. -/
theorem not_isDependency_of_hasStrayExtra (h : HasStrayExtra v) : ¬ IsDependency v := by
  obtain ⟨entries, items, rfl, -, hlookup, item, hitem, hstray⟩ := h
  intro hshape
  cases hshape with
  | table _ hextras =>
    obtain ⟨s, rfl⟩ := isTexts_array_iff.mp (hextras _ hlookup) item hitem
    exact hstray s rfl

/-- A value is read when it has the shape of a dependency, and else when all that is wrong with it
is a stray extra. -/
theorem exists_ofToml_iff : (∃ d, ofToml v = .ok d) ↔ IsDependency v ∨ HasStrayExtra v := by
  have hother {kind : String} (hread : ofToml v = .error (.notPackage kind))
      (htext : ∀ s, v ≠ .text s) (htable : ∀ entries, v ≠ .table entries) :
      (∃ d, ofToml v = .ok d) ↔ IsDependency v ∨ HasStrayExtra v := by
    constructor
    · rintro ⟨d, hd⟩
      rw [hread] at hd
      cases hd
    · rintro (hshape | ⟨entries, -, hv, -⟩)
      · cases hshape with
        | text s => exact absurd rfl (htext s)
        | table => exact absurd rfl (htable _)
      · exact absurd hv (htable entries)
  cases v with
  | text s => exact ⟨fun _ ↦ .inl (.text s), fun _ ↦ ⟨.bare s, rfl⟩⟩
  | table entries =>
    rw [exists_ofToml_table_iff]
    constructor
    · rintro ⟨hsource, hextras⟩
      by_cases htexts : ∀ v, entries.lookup "extras" = some v → IsTexts v
      · exact .inl (.table hsource htexts)
      · simp only [not_forall] at htexts
        obtain ⟨v, hlookup, hstray⟩ := htexts
        obtain ⟨items, rfl⟩ := hextras v hlookup
        rw [isTexts_array_iff] at hstray
        simp only [not_forall, not_exists] at hstray
        obtain ⟨item, hitem, hstray⟩ := hstray
        exact .inr ⟨entries, items, rfl, hsource, hlookup, item, hitem, hstray⟩
    · rintro (hshape | ⟨_, items, hv, hsource, hlookup, -⟩)
      · cases hshape with
        | table hsource hextras =>
          refine ⟨hsource, fun v hv ↦ ?_⟩
          obtain ⟨texts, rfl⟩ := hextras v hv
          exact ⟨_, rfl⟩
      · cases hv
        refine ⟨hsource, fun v hv ↦ ⟨items, ?_⟩⟩
        rw [hlookup] at hv
        exact (Option.some.inj hv).symm
  | integer | float | boolean | datetime | array =>
    exact hother rfl (fun _ h ↦ by cases h) (fun _ h ↦ by cases h)

/-- What was read holds what the value holds exactly when there was no stray extra. -/
theorem holds_iff_of_ofToml (h : ofToml v = .ok d) : Holds v d ↔ ¬ HasStrayExtra v := by
  constructor
  · rintro hholds ⟨entries, items, rfl, -, hlookup, item, hitem, hstray⟩
    have htexts := (holds_iff_of_ofToml_table h).mp hholds _ hlookup
    obtain ⟨s, rfl⟩ := isTexts_array_iff.mp htexts item hitem
    exact hstray s rfl
  · intro hstray
    have hshape := (exists_ofToml_iff.mp ⟨d, h⟩).resolve_right hstray
    cases hshape with
    | text s =>
      cases h
      exact .text s
    | table hsource hextras => exact (holds_iff_of_ofToml_table h).mpr hextras

/-! ## Writing -/

private theorem lookup_fieldEntry (name key : String) (value : Option Value) :
    (fieldEntry name value).lookup key = if key = name then value else none := by
  cases value with
  | none => exact (ite_self none).symm
  | some v =>
    rw [fieldEntry, Option.map_some, Option.toList_some, List.lookup_cons]
    by_cases hkey : key = name
    · rw [if_pos hkey, hkey, beq_self_eq_true]
    · rw [if_neg hkey, beq_false_of_ne hkey]
      rfl

private theorem ofToml_toToml_detailed (h : version ≠ none ∨ git ≠ none) :
    ofToml (toToml (.detailed version git rev extras)) =
      .ok (.detailed version git rev extras) := by
  refine ofToml_table_eq_ok_iff.mpr ⟨version, git, rev, extras, rfl, ?_, ?_, ?_, ?_, h⟩
  · simp [textField_eq_ok_iff, List.lookup_append, lookup_fieldEntry]
  · simp [textField_eq_ok_iff, List.lookup_append, lookup_fieldEntry]
  · simp [textField_eq_ok_iff, List.lookup_append, lookup_fieldEntry]
  · refine extrasField_eq_ok_iff.mpr ⟨extras.map .text, ?_, (textsAmong_map_text extras).symm⟩
    cases extras <;> simp [List.lookup_append, lookup_fieldEntry]

/-- What was read is read again from its written form. -/
theorem ofToml_toToml (h : ofToml v = .ok d) : ofToml d.toToml = .ok d := by
  cases v with
  | text s =>
    cases h
    rfl
  | table entries =>
    obtain ⟨version, git, rev, extras, rfl, -, -, -, -, hsource⟩ := ofToml_table_eq_ok_iff.mp h
    exact ofToml_toToml_detailed hsource
  | integer | float | boolean | datetime | array => cases h

/-- A value is read exactly when it is a text or a table with a version or a repository, whose
fields are texts and whose extras are an array of texts, unless such a table has an extra that is
no text. A dependency that is read holds exactly what its value holds, with every extra in its
place, unless the value has such an extra. In every case it is read again from its written form. -/
theorem ofToml_strict_iff (v : Value) :
    (((∃ d, ofToml v = .ok d) ↔ IsDependency v) ↔ ¬ HasStrayExtra v) ∧
      (∀ d, ofToml v = .ok d → (Holds v d ↔ ¬ HasStrayExtra v)) ∧
      ∀ d, ofToml v = .ok d → ofToml d.toToml = .ok d := by
  refine ⟨?_, fun d h ↦ holds_iff_of_ofToml h, fun d h ↦ ofToml_toToml h⟩
  rw [exists_ofToml_iff]
  constructor
  · exact fun hread hstray ↦ not_isDependency_of_hasStrayExtra hstray (hread.mp (.inr hstray))
  · exact fun hstray ↦ or_iff_left hstray

/-- An extra that is no text is passed over, and the dependency is written without it. -/
theorem ofToml_of_strayExtra :
    let v : Value := .table [("version", .text ">=0.27"),
      ("extras", .array [.text "http2", .integer 2])]
    let d : PoetryDependency := .detailed (some ">=0.27") none none ["http2"]
    ofToml v = .ok d ∧ ¬ IsDependency v ∧ ¬ Holds v d := by
  intro v d
  have hread : ofToml v = .ok d := rfl
  have hsource := (exists_ofToml_table_iff.mp ⟨d, hread⟩).1
  have hstray : HasStrayExtra v :=
    ⟨_, _, rfl, hsource, rfl, .integer 2, by simp, fun s h ↦ by cases h⟩
  exact ⟨hread, not_isDependency_of_hasStrayExtra hstray,
    fun hholds ↦ (holds_iff_of_ofToml hread).mp hholds hstray⟩

end ContainerBuild.PoetryDependency
