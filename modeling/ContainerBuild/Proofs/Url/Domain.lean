import ContainerBuild.Proofs.Text.Words
import ContainerBuild.Proofs.Url.Address
import ContainerBuild.Proofs.Url.Punycode
import ContainerBuild.Url.Domain

/-!
# The ASCII form of a domain is its own

The ASCII form of a domain has no capital letters and no look-alikes, so nothing in it is replaced.
Its labels are those that were read, each in ASCII or in Punycode behind the mark, and they are read
again as the same labels.
-/

namespace ContainerBuild.Url

variable {s d read label : List Char} {c : Char}

/-! ## Labels -/

private theorem Label.decode?_encode_of_isValid (hascii : label.all isAscii = false)
    (hvalid : isValid label = true) : decode? (encode label) = some label := by
  have hafter : Text.after? mark (mark ++ Punycode.encode label) = some (Punycode.encode label) :=
    Text.after?_eq_some_iff.mpr rfl
  rw [encode, hascii, if_neg Bool.false_ne_true, decode?, hafter]
  simp only [Punycode.decode?_encode, hascii, hvalid, Bool.not_false, Bool.and_self, if_true]

/-- A label that is read is in ASCII and the text itself, or can be written in ASCII. It is the text
itself or is read from Punycode behind the mark. -/
theorem Label.of_decode? (h : decode? read = some label) :
    (label.all isAscii = true ∧ label = read ∨ label.all isAscii = false ∧ isValid label = true) ∧
      (label = read ∨ ∃ written, read = mark ++ written ∧
        Punycode.decode? written = some label) := by
  rw [decode?] at h
  split at h
  · split at h
    · next hread =>
      cases h
      refine ⟨?_, .inl rfl⟩
      cases hascii : read.all isAscii with
      | true => exact .inl ⟨rfl, rfl⟩
      | false => exact .inr ⟨rfl, by simpa [hascii] using hread⟩
    · cases h
  · next written hafter =>
    split at h
    · cases h
    · next decoded hdecoded =>
      split at h
      · next hread =>
        cases h
        rw [Bool.and_eq_true, Bool.not_eq_true'] at hread
        exact ⟨.inr hread, .inr ⟨written, Text.after?_eq_some_iff.mp hafter, hdecoded⟩⟩
      · cases h

/-- A label is read back from its ASCII form. -/
theorem Label.decode?_encode (h : decode? read = some label) :
    decode? (encode label) = some label := by
  obtain ⟨hascii, rfl⟩ | ⟨hascii, hvalid⟩ := (of_decode? h).1
  · rwa [encode, if_pos hascii]
  · exact decode?_encode_of_isValid hascii hvalid

private theorem Label.dot_not_mem_encode (hdot : '.' ∉ read) (h : decode? read = some label) :
    '.' ∉ encode label := by
  have hlabel : '.' ∉ label := by
    obtain rfl | ⟨written, rfl, hdecoded⟩ := (of_decode? h).2
    · exact hdot
    · refine Punycode.dot_not_mem_of_decode? (fun hmem ↦ ?_) hdecoded
      exact hdot (List.mem_append_right _ hmem)
  rw [encode]
  split
  · exact hlabel
  · rw [List.mem_append, not_or]
    exact ⟨by decide, Punycode.dot_not_mem_encode hlabel⟩

/-! ## Domains -/

/-- The characters of a domain in ASCII form. -/
theorem isDomainChar_of_domainToAscii? (h : domainToAscii? s = some d) :
    ∀ c ∈ d, isDomainChar c = true :=
  List.all_eq_true.mp (Option.filter_eq_some_iff.mp h).2

private theorem isAscii_of_isDomainChar (h : isDomainChar c = true) :
    Label.isAscii c = true ∧ c.toLower = c := by
  simp only [isDomainChar, Bool.and_eq_true, decide_eq_true_eq] at h
  exact ⟨decide_eq_true (h.1.1.2.trans (by decide)), h.1.2⟩

private theorem mapped?_eq_self (hs : ∀ c ∈ s, isDomainChar c = true) : mapped? s = some s := by
  have hreplaced : s.mapM replaced? = some (s.map ([·])) := by
    rw [mapM_eq_some_iff, List.map_map]
    refine List.map_congr_left fun c hc ↦ ?_
    obtain ⟨hascii, hlower⟩ := isAscii_of_isDomainChar (hs c hc)
    rw [replaced?, if_pos hascii, hlower]
    rfl
  have hflatten : (s.map ([·])).flatten = s := by
    rw [← List.flatMap_def, List.flatMap_singleton']
  rw [mapped?, hreplaced, Option.map_some, hflatten, Text.canonical, if_pos]
  rw [List.all_eq_true]
  intro c hc
  have hascii := (isAscii_of_isDomainChar (hs c hc)).1
  rw [Label.isAscii, decide_eq_true_iff] at hascii
  exact decide_eq_true (hascii.trans (by decide))

/-- A text of such characters is its own ASCII form when its labels are the ASCII forms of what they
are read as. -/
theorem domainToAscii?_eq_self {labels : List (List Char)} (hs : ∀ c ∈ s, isDomainChar c = true)
    (hlabels : labels? s = some labels) (hwritten : labels.map Label.encode = s.splitOn '.')
    (hkeeps : keepsDirections labels = true) : domainToAscii? s = some s := by
  have hencoded : encoded? s = some s := by
    simp only [encoded?, mapped?_eq_self hs, hlabels, bind, Option.bind_some, hkeeps, if_true,
      hwritten, List.intercalate_splitOn]
  rw [domainToAscii?, hencoded, Option.filter_some, if_pos (List.all_eq_true.mpr hs)]

/-- The ASCII form of a domain name is its own ASCII form. -/
theorem domainToAscii?_idem (h : domainToAscii? s = some d) : domainToAscii? d = some d := by
  obtain ⟨hencoded, -⟩ := Option.filter_eq_some_iff.mp h
  obtain ⟨text, -, hrest⟩ := Option.bind_eq_some_iff.mp hencoded
  obtain ⟨labels, hlabels, hjoined⟩ := Option.bind_eq_some_iff.mp hrest
  split at hjoined
  · next hkeeps =>
    obtain rfl := Option.some.inj hjoined
    rw [labels?, mapM_eq_some_iff] at hlabels
    have hread : ∀ label ∈ labels, ∃ read, '.' ∉ read ∧ Label.decode? read = some label := by
      intro label hl
      obtain ⟨read, hmem, hdecode⟩ := List.mem_map.mp (hlabels ▸ List.mem_map_of_mem hl)
      exact ⟨read, Text.not_mem_of_mem_splitOn hmem, hdecode⟩
    have hne : labels ≠ [] := by
      rintro rfl
      exact List.splitOn_ne_nil _ _ (List.map_eq_nil_iff.mp hlabels)
    have hsplit : (['.'].intercalate (labels.map Label.encode)).splitOn '.' =
        labels.map Label.encode := by
      refine List.splitOn_intercalate '.' ?_ (by simpa using hne)
      rw [List.forall_mem_map]
      intro label hl
      obtain ⟨read, hdot, hdecode⟩ := hread label hl
      exact Label.dot_not_mem_encode hdot hdecode
    refine domainToAscii?_eq_self (isDomainChar_of_domainToAscii? h) ?_ hsplit.symm hkeeps
    rw [labels?, hsplit, mapM_eq_some_iff, List.map_map]
    refine List.map_congr_left fun label hl ↦ ?_
    obtain ⟨read, -, hdecode⟩ := hread label hl
    exact Label.decode?_encode hdecode
  · cases hjoined

/-! ## Plain names -/

/-- A character that stays in a domain name, where it opens no mark. -/
structure StaysInDomain (c : Char) : Prop where
  domain : isDomainChar c = true
  direction : (BidiClass.ofChar c).isRightward = false
  mark : c ≠ 'x'

/-- A name of characters that stay in it is its own ASCII form. -/
theorem domainToAscii?_of_forall_staysInDomain (hs : ∀ c ∈ s, StaysInDomain c) :
    domainToAscii? s = some s := by
  have hpiece : ∀ label ∈ s.splitOn '.', ∀ c ∈ label, StaysInDomain c := by
    intro label hl c hc
    have hjoin : ['.'].intercalate (s.splitOn '.') = s := List.intercalate_splitOn '.'
    exact hs c (hjoin ▸ Text.mem_intercalate_of_mem hl hc)
  have hascii : ∀ label ∈ s.splitOn '.', label.all Label.isAscii = true := fun label hl ↦
    List.all_eq_true.mpr fun c hc ↦ (isAscii_of_isDomainChar (hpiece label hl c hc).domain).1
  refine @domainToAscii?_eq_self s (s.splitOn '.') (fun c hc ↦ (hs c hc).domain) ?_ ?_ ?_
  · rw [labels?, mapM_eq_some_iff]
    refine List.map_congr_left fun label hl ↦ ?_
    have hmark : Text.after? Label.mark label = none := by
      rw [Option.eq_none_iff_forall_ne_some]
      intro behind hbehind
      have hx : 'x' ∈ label := by
        rw [Text.after?_eq_some_iff.mp hbehind]
        exact List.mem_append_left _ List.mem_cons_self
      exact (hpiece label hl 'x' hx).mark rfl
    simp only [Label.decode?, hmark, hascii label hl, Bool.true_or, if_true]
  · conv_rhs => rw [← List.map_id (s.splitOn '.')]
    exact List.map_congr_left fun label hl ↦ if_pos (hascii label hl)
  · have hleft : ((s.splitOn '.').map fun label ↦ label.map BidiClass.ofChar).any
        (fun label ↦ label.any BidiClass.isRightward) = false := by
      rw [List.any_map, List.any_eq_false]
      intro label hl
      simp only [Function.comp_apply, List.any_map, Bool.not_eq_true, List.any_eq_false]
      exact fun c hc ↦ (hpiece label hl c hc).direction
    simp only [keepsDirections, hleft, Bool.not_false, Bool.true_or]

end ContainerBuild.Url
