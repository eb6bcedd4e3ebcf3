import ContainerBuild.Proofs.Version.Choice
import ContainerBuild.Proofs.Version.Clause

/-!
# How a chosen version is written

A version that is asked for is chosen as it is written, and more than one text is read as the same
numbers: a `v` may lead them, and zeros may lead each of them. Only a version from the list of known
ones is always the plain rendering of its numbers.
-/

namespace ContainerBuild

open Text (IsNumeral firstLine)

/-- A text gives the numbers of a release between dots, perhaps each behind zeros and all behind
one `v`. -/
def Release.IsSpelled (r : Release) (text : String) : Prop :=
  ∃ lead numerals, (lead = [] ∨ lead = ['v']) ∧ List.Forall₂ IsNumeral numerals r ∧
    text.toList = lead ++ ['.'].intercalate numerals

namespace Release

variable {r : Release} {part s : List Char} {n : Nat}

/-! ## Numerals between dots -/

private theorem isNumeral_of_component? (hplus : '+' ∉ part) (h : component? part = some n) :
    IsNumeral part n := by
  simp only [component?, bind, Option.bind_eq_some_iff] at h
  obtain ⟨m, hm, hn⟩ := h
  split at hn
  · obtain rfl : m = n := Option.some.inj hn
    split at hm
    · exact absurd List.mem_cons_self hplus
    · exact Text.readNat?_eq_some_iff.mp hm
  · cases hn

private theorem exists_numerals_of_parse (hplus : '+' ∉ s) (h : parse s = .ok r) :
    ∃ numerals, List.Forall₂ IsNumeral numerals r ∧ s = ['.'].intercalate numerals := by
  obtain ⟨-, -, hparts⟩ := parse_eq_ok_iff.mp h
  have hs : ['.'].intercalate (s.splitOn '.') = s := List.intercalate_splitOn '.'
  refine ⟨s.splitOn '.', ?_, hs.symm⟩
  have hbare : ∀ part ∈ s.splitOn '.', '+' ∉ part := by
    intro part hpart hmem
    rw [← hs] at hplus
    exact hplus (Text.mem_intercalate_of_mem hpart hmem)
  have hread : List.Forall₂ (fun part n ↦ component? part = some n) (s.splitOn '.') r := by
    rwa [← List.forall₂_eq_eq_eq, List.forall₂_map_left_iff, List.forall₂_map_right_iff] at hparts
  exact ((List.forall₂_and_left _ _).mpr ⟨hbare, hread⟩).imp fun part n hpart ↦
    isNumeral_of_component? hpart.1 hpart.2

/-- The spelling of a release is not empty, and it is made of digits and dots behind the letter. -/
theorem IsSpelled.of_isWritable {text : String} (h : r.IsSpelled text) (hr : r.IsWritable) :
    text.toList ≠ [] ∧ ∀ c ∈ text.toList, c = 'v' ∨ isReleaseChar c = true := by
  obtain ⟨lead, numerals, hlead, hnumerals, htext⟩ := h
  have hparse := parse_intercalate hr hnumerals
  rw [htext]
  refine ⟨List.append_ne_nil_of_right_ne_nil _ (parse_eq_ok_iff.mp hparse).1, fun c hc ↦ ?_⟩
  rcases List.mem_append.mp hc with hc | hc
  · rcases hlead with rfl | rfl
    · cases hc
    · exact .inl (List.mem_singleton.mp hc)
  · exact .inr (isReleaseChar_of_parse hparse c hc)

end Release

namespace Version

variable {r : Release} {text : String} {v : Version}

/-- What of a line is read as a release: all but a `v` in front. -/
def releaseChars : List Char → List Char
  | 'v' :: rest => rest
  | chars => chars

/-- How a version is read. -/
theorem parse_eq (text : String) : Version.parse text =
    match Release.parse (releaseChars (firstLine text).toList) with
    | .ok release => .ok release.toVersion
    | .error reason => .error (.invalidVersion (firstLine text) reason) := rfl

private theorem releaseChars_of_not_mem {chars : List Char} (h : 'v' ∉ chars) :
    releaseChars chars = chars := by
  unfold releaseChars
  split
  · exact absurd List.mem_cons_self h
  · rfl

private theorem exists_eq_append_releaseChars (chars : List Char) :
    ∃ lead, (lead = [] ∨ lead = ['v']) ∧ chars = lead ++ releaseChars chars := by
  unfold releaseChars
  split
  · exact ⟨['v'], .inr rfl, rfl⟩
  · exact ⟨[], .inl rfl, rfl⟩

/-- A version is read from a text that spells its numbers. -/
theorem parse_of_isSpelled (hr : r.IsWritable) (h : r.IsSpelled text) :
    Version.parse text = .ok r.toVersion := by
  have hblank : ∀ c ∈ text.toList, Text.isBlank c = false := by
    intro c hc
    rcases (h.of_isWritable hr).2 c hc with rfl | hc
    · rfl
    · exact Release.isBlank_of_isReleaseChar hc
  have hline : firstLine text = text := by
    rw [Text.firstLine_eq_trim fun hc ↦ absurd (hblank _ hc) (by decide), Text.trim_eq_self hblank]
  obtain ⟨lead, numerals, hlead, hnumerals, htext⟩ := h
  have hparse := Release.parse_intercalate hr hnumerals
  have hchars := Release.isReleaseChar_of_parse hparse
  have hread : releaseChars text.toList = ['.'].intercalate numerals := by
    rw [htext]
    rcases hlead with rfl | rfl
    · exact releaseChars_of_not_mem fun hc ↦ by cases hchars 'v' hc
    · rfl
  rw [parse_eq, hline, hread, hparse]

/-- What reads as a version is the first line of a text, and without a plus sign it spells the
numbers of a release. -/
theorem exists_release_of_parse (h : Version.parse text = .ok v) :
    ∃ r : Release, r.IsWritable ∧ v = r.toVersion ∧
      ('+' ∉ (firstLine text).toList → r.IsSpelled (firstLine text)) := by
  rw [parse_eq] at h
  split at h
  · next r hr =>
    refine ⟨r, Release.isWritable_of_parse hr, (Except.ok.inj h).symm, fun hplus ↦ ?_⟩
    obtain ⟨lead, hlead, hline⟩ := exists_eq_append_releaseChars (firstLine text).toList
    rw [hline] at hplus
    obtain ⟨numerals, hnumerals, hchars⟩ :=
      Release.exists_numerals_of_parse (fun hc ↦ hplus (List.mem_append_right _ hc)) hr
    exact ⟨lead, numerals, hlead, hnumerals, hchars ▸ hline⟩
  · cases h

/-- The rendering of a release spells its numbers. -/
theorem isSpelled_render (r : Release) : r.IsSpelled r.render :=
   ⟨[], _, .inl rfl, Release.forall₂_isNumeral_toDigits r, Release.toList_render r⟩

/-- The known versions are rendered numbers. -/
theorem exists_release_of_mem_preferred (h : text ∈ preferred) :
    ∃ r : Release, r.IsWritable ∧ text = r.render := by
  have hminor : ∀ known ∈ preferred,
      ∃ minor ∈ List.range 14, known = Release.render [3, minor] := by
    decide
  obtain ⟨minor, hmem, hrender⟩ := hminor text h
  have hlt : minor < 14 := List.mem_range.mp hmem
  have hlimit : 14 ≤ Release.componentLimit := by decide
  refine ⟨[3, minor], ⟨List.cons_ne_nil _ _, by simp, ?_⟩, hrender⟩
  simp only [List.forall_mem_cons]
  exact ⟨by omega, by omega, List.forall_mem_nil _⟩

end Version

end ContainerBuild
