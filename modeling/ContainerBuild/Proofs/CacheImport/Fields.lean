import ContainerBuild.CacheImport
import ContainerBuild.Proofs.List.FirstOccurrences
import ContainerBuild.Proofs.Text.Trim
import ContainerBuild.Proofs.Text.Words

/-!
# Fields of a cache option

The engine gets an entry as one option, with commas between its fields and an equals sign in each.
No character is escaped in it. An entry is therefore read in its option exactly when no comma stands
in its kind, in a key or in a value, and no equals sign in a key. That always holds of a registry
reference from a list between commas; an entry of the JSON text may have any text in these places.
-/

namespace ContainerBuild.CacheImport

variable {c d : CacheImport} {imports references : Option String} {l : List CacheImport}

/-- What is read in an option: its parts between commas, each divided at its first equals sign. -/
def fields (option : String) : List (Option (String × String)) :=
  (Text.splitOn ',' option).map (Text.splitOnce '=')

/-- The fields of an entry: its kind, then its attributes in the order of their keys. -/
def ownFields (c : CacheImport) : List (String × String) := ("type", c.kind) :: c.attrs.entries

/-- A field as it is written. -/
def writtenField (field : String × String) : String := field.1 ++ "=" ++ field.2

/-- Whether nothing in a field divides the option that it is written into. -/
def IsUndividedField (field : String × String) : Prop :=
  '=' ∉ field.1.toList ∧ ',' ∉ field.1.toList ∧ ',' ∉ field.2.toList

instance : DecidablePred IsUndividedField := fun field ↦
  inferInstanceAs (Decidable ('=' ∉ field.1.toList ∧ ',' ∉ field.1.toList ∧ ',' ∉ field.2.toList))

/-- Whether nothing in an entry divides its option. -/
def IsUndivided (c : CacheImport) : Prop := ∀ field ∈ c.ownFields, IsUndividedField field

instance : DecidablePred IsUndivided := fun c ↦
  inferInstanceAs (Decidable (∀ field ∈ c.ownFields, IsUndividedField field))

/-- The entries that a JSON text lists; without a text, or with a blank one, there are none. -/
def listed (imports : Option String) : Except CacheImportError (List CacheImport) :=
  match imports.bind Text.nonBlank? with
  | some json => ofJson json
  | none => .ok []

/-! ## Reading an option -/

private theorem spec_eq (c : CacheImport) :
    c.spec = ",".intercalate (c.ownFields.map writtenField) := rfl

private theorem toList_writtenField (field : String × String) :
    (writtenField field).toList = field.1.toList ++ '=' :: field.2.toList := by
  simp [writtenField]

/-- Fields are read as what they are exactly when nothing in them divides the option. -/
theorem fields_intercalate_iff {own : List (String × String)} (hne : own ≠ []) :
    fields (",".intercalate (own.map writtenField)) = own.map some ↔
      ∀ field ∈ own, IsUndividedField field := by
  constructor
  · intro h field hfield
    have hmem : some field ∈ fields (",".intercalate (own.map writtenField)) :=
      h ▸ List.mem_map_of_mem hfield
    obtain ⟨part, hpart, hsplit⟩ := List.mem_map.mp hmem
    obtain ⟨hequals, hchars⟩ := Text.splitOnce_eq_some_iff.mp hsplit
    obtain ⟨piece, hpiece, rfl⟩ := List.mem_map.mp hpart
    -- whatever is read, it stands between commas
    have hcomma := Text.not_mem_of_mem_splitOn hpiece
    rw [String.toList_ofList] at hchars
    rw [hchars, List.mem_append, List.mem_cons, not_or, not_or] at hcomma
    exact ⟨hequals, hcomma.1, hcomma.2.2⟩
  · intro h
    have hcomma : ∀ part ∈ own.map writtenField, ',' ∉ part.toList := by
      rw [List.forall_mem_map]
      intro field hfield
      obtain ⟨-, hkey, hvalue⟩ := h field hfield
      rw [toList_writtenField, List.mem_append, List.mem_cons, not_or, not_or]
      exact ⟨hkey, by decide, hvalue⟩
    rw [fields, Text.splitOn_intercalate rfl (by simpa using hne) hcomma, List.map_map]
    refine List.map_congr_left fun field hfield ↦ ?_
    exact Text.splitOnce_eq_some_iff.mpr ⟨(h field hfield).1, toList_writtenField field⟩

/-- An option is read as its entry exactly when nothing in the entry divides it. -/
theorem fields_spec_iff : fields c.spec = c.ownFields.map some ↔ c.IsUndivided := by
  have hne : c.ownFields ≠ [] := List.cons_ne_nil _ _
  rw [spec_eq, fields_intercalate_iff hne, IsUndivided]

private theorem eq_of_ownFields_eq (h : c.ownFields = d.ownFields) : c = d := by
  obtain ⟨kind, attrs⟩ := c
  obtain ⟨kind', attrs'⟩ := d
  obtain ⟨hfirst, hrest⟩ := List.cons.inj h
  have hkind : kind = kind' := (Prod.mk.inj hfirst).2
  have hattrs : attrs = attrs' := Dict.eq_of_entries_eq hrest
  rw [hkind, hattrs]

/-- Entries that are read in their options have different ones. -/
theorem IsUndivided.spec_inj (hc : c.IsUndivided) (hd : d.IsUndivided) (h : c.spec = d.spec) :
    c = d := by
  apply eq_of_ownFields_eq
  apply List.map_injective_iff.mpr fun _ _ ↦ Option.some.inj
  rw [← fields_spec_iff.mpr hc, ← fields_spec_iff.mpr hd, h]

/-! ## Lists of entries -/

/-- What is read are the entries of the JSON text and the references behind them, each once. -/
theorem parse_eq (imports references : Option String) :
    parse imports references = (listed imports).map
      fun entries ↦ (entries ++ ofReferences (references.getD "")).eraseDups := by
  rw [parse, listed]
  cases imports.bind Text.nonBlank? with
  | none => rfl
  | some json =>
    cases h : ofJson json <;> simp [h, Except.map, bind, Except.bind, pure, Except.pure]

private theorem isUndivided_of_mem_ofReferences {references : String}
    (h : c ∈ ofReferences references) :
    c.IsUndivided := by
  obtain ⟨reference, hreference, rfl⟩ := List.mem_map.mp h
  obtain ⟨part, hpart, hblank⟩ := List.mem_filterMap.mp hreference
  obtain ⟨-, rfl⟩ := Text.nonBlank?_eq_some_iff.mp hblank
  obtain ⟨piece, hpiece, rfl⟩ := List.mem_map.mp hpart
  have hcomma : ',' ∉ (Text.trim (String.ofList piece)).toList := by
    rw [Text.toList_trim, String.toList_ofList]
    exact fun hmem ↦ Text.not_mem_of_mem_splitOn hpiece (Text.mem_of_mem_trimChars hmem)
  have hkind : IsUndividedField ("type", "registry") := by decide
  have hkey : '=' ∉ "ref".toList ∧ ',' ∉ "ref".toList := by decide
  intro field hfield
  rcases List.mem_cons.mp hfield with rfl | hfield
  · exact hkind
  · obtain rfl := List.mem_singleton.mp hfield
    exact ⟨hkey.1, hkey.2, hcomma⟩

/-- Of the entries that are read for a build, each is found in its option, with its kind and then
its attributes in the order of their keys, exactly when no comma stands in the kind, in a key or in
a value, and no equals sign in a key. Entries of which this holds have different options. The others
all come from the JSON text. -/
theorem fields_of_parse_iff (h : parse imports references = .ok l) :
    (∀ c ∈ l, (fields c.spec = c.ownFields.map some ↔ c.IsUndivided)) ∧
      (∀ c ∈ l, ∀ d ∈ l, c.IsUndivided → d.IsUndivided → c.spec = d.spec → c = d) ∧
      ((∀ c ∈ l, c.IsUndivided) → (l.map spec).Nodup) ∧
      ∀ c ∈ l, ¬ c.IsUndivided → ∃ entries, listed imports = .ok entries ∧ c ∈ entries := by
  rw [parse_eq] at h
  cases hlisted : listed imports with
  | error e =>
    rw [hlisted] at h
    cases h
  | ok entries =>
    rw [hlisted] at h
    cases h
    refine ⟨fun _ _ ↦ fields_spec_iff, fun _ _ _ _ hc hd ↦ hc.spec_inj hd, fun hall ↦ ?_, ?_⟩
    · refine (List.nodup_map_iff_inj_on (nodup_eraseDups _)).mpr ?_
      exact fun c hc d hd ↦ (hall c hc).spec_inj (hall d hd)
    · intro c hc hnot
      rw [List.mem_eraseDups, List.mem_append] at hc
      exact ⟨entries, rfl, hc.resolve_right fun href ↦ hnot (isUndivided_of_mem_ofReferences href)⟩

/-- An entry of a JSON text, with an equals sign in a value, and a reference behind it. -/
theorem fields_of_parse_iff_reference :
    let imports := "[\x7b\"type\":\"s3\"," ++
      "\"attrs\":\x7b\"url\":\"s3://b?x=1\",\"mode\":\"max\"\x7d\x7d]"
    let c : CacheImport := ⟨"s3", .ofList [("url", "s3://b?x=1"), ("mode", "max")]⟩
    parse (some imports) (some " reg/app:cache ,") = .ok [c, registry "reg/app:cache"] ∧
      fields c.spec = [some ("type", "s3"), some ("mode", "max"), some ("url", "s3://b?x=1")] ∧
      fields (registry "reg/app:cache").spec =
        [some ("type", "registry"), some ("ref", "reg/app:cache")] ∧
      c.spec ≠ (registry "reg/app:cache").spec := by
  intro imports c
  have hlisted : listed (some imports) = .ok [c] := by decide +kernel
  have hreferences : ofReferences " reg/app:cache ," = [registry "reg/app:cache"] := by
    decide +kernel
  have hparse : parse (some imports) (some " reg/app:cache ,") =
      .ok [c, registry "reg/app:cache"] := by
    rw [parse_eq, hlisted]
    show Except.ok ([c] ++ ofReferences " reg/app:cache ,").eraseDups = _
    rw [hreferences]
    exact congrArg Except.ok (eraseDups_eq_self (by decide))
  obtain ⟨hfields, -, hnodup, -⟩ := fields_of_parse_iff hparse
  have hall : ∀ e ∈ [c, registry "reg/app:cache"], e.IsUndivided := by decide
  refine ⟨hparse, ?_, ?_, ?_⟩
  · exact ((hfields c (by simp)).mpr (hall c (by simp))).trans (by decide)
  · exact ((hfields _ (by simp)).mpr (hall _ (by simp))).trans (by decide)
  · simpa using hnodup hall

/-- A comma in an attribute makes two entries the same for the engine. -/
theorem spec_eq_of_comma :
    let imports := "[\x7b\"Type\":\"gha\",\"Attrs\":\x7b\"a\":\"x,b=y\"\x7d\x7d," ++
      "\x7b\"Type\":\"gha\",\"Attrs\":\x7b\"a\":\"x\",\"b\":\"y\"\x7d\x7d]"
    let c : CacheImport := ⟨"gha", .ofList [("a", "x,b=y")]⟩
    let d : CacheImport := ⟨"gha", .ofList [("a", "x"), ("b", "y")]⟩
    parse (some imports) none = .ok [c, d] ∧ c ≠ d ∧
      c.spec = "type=gha,a=x,b=y" ∧ d.spec = "type=gha,a=x,b=y" ∧
      fields c.spec ≠ c.ownFields.map some := by
  intro imports c d
  have hlisted : listed (some imports) = .ok [c, d] := by decide +kernel
  refine ⟨?_, by decide, by decide, by decide, by decide⟩
  rw [parse_eq, hlisted]
  show Except.ok ([c, d] ++ ofReferences "").eraseDups = _
  have hreferences : ofReferences "" = [] := by decide +kernel
  rw [hreferences]
  exact congrArg Except.ok (eraseDups_eq_self (by decide))

end ContainerBuild.CacheImport
