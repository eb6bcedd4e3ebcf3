import ContainerBuild.Proofs.Url.Encoding
import ContainerBuild.Proofs.Url.Printable

/-!
# Written paths are read back

The segments of a path that has been read are encoded, without slashes, and none of them stands for
a directory, since encoding a text gives a segment for a directory only when the text is one. The
segments are therefore read back from the path that they are written as, but for a drive at the
front of the path of a file, which is read with a colon.
-/

namespace ContainerBuild.Url

variable {k : SchemeKind} {s t : List Char} {l : List (List Char)}

/-! ## Segments for directories -/

/-- The segments that stand for a directory, in lower case. -/
def dotForms : List (List Char) :=
  [['.'], ['%', '2', 'e'], ['.', '.'], ['.', '%', '2', 'e'], ['%', '2', 'e', '.'],
    ['%', '2', 'e', '%', '2', 'e']]

/-- Whether a segment stands for a directory. -/
def isDots (s : List Char) : Bool := isSingleDot s || isDoubleDot s

private theorem map_toLower_mem_dotForms (h : isDots s = true) : s.map Char.toLower ∈ dotForms := by
  simp only [isDots, isSingleDot, isDoubleDot, Bool.or_eq_true, decide_eq_true_eq] at h
  simp only [dotForms, List.mem_cons, List.not_mem_nil, or_false]
  rcases h with (rfl | h) | ((h | h) | h) | h
  · exact .inl rfl
  · exact .inr (.inl h)
  · exact .inr (.inr (.inl h))
  · exact .inr (.inr (.inr (.inl h)))
  · exact .inr (.inr (.inr (.inr (.inl h))))
  · exact .inr (.inr (.inr (.inr (.inr h))))

private theorem eq_of_isDots_append {a rest : List Char} {b : UInt8}
    (h : isDots (a ++ encodeByte b ++ rest) = true) : b = 0x2E := by
  have hforms : ∀ form ∈ dotForms, ∀ i < form.length, form[i]? = some '%' →
      form[i + 1]? = some '2' ∧ form[i + 2]? = some 'e' := by
    decide
  have hbytes : ∀ n < 256, (hexDigit (n / 16)).toLower = '2' → (hexDigit (n % 16)).toLower = 'e' →
      n = 0x2E := by
    decide +kernel
  have hmem := map_toLower_mem_dotForms h
  have htext : (a ++ encodeByte b ++ rest).map Char.toLower = a.map Char.toLower ++
      '%' :: (hexDigit (b.toNat / 16)).toLower :: (hexDigit (b.toNat % 16)).toLower ::
        rest.map Char.toLower := by
    simp [encodeByte]
  rw [htext] at hmem
  have hdigits : (hexDigit (b.toNat / 16)).toLower = '2' ∧
      (hexDigit (b.toNat % 16)).toLower = 'e' := by
    simpa using hforms _ hmem (a.map Char.toLower).length (by simp) (by simp)
  apply UInt8.toNat_inj.mp
  exact hbytes _ b.toNat_lt hdigits.1 hdigits.2

private theorem eq_dot_of_utf8EncodeChar {c : Char} {bytes : List UInt8}
    (h : String.utf8EncodeChar c = 0x2E :: bytes) : c = '.' := by
  have hnat (m fixed n : Nat) (hm : 0 < m) (hlow : 0x2E < fixed) (hhigh : m + fixed ≤ 256) :
      UInt8.ofNat (n % m + fixed) ≠ 0x2E := by
    intro he
    have hmod := Nat.mod_lt n hm
    have hvalue : (UInt8.ofNat (n % m + fixed)).toNat = 0x2E := congrArg UInt8.toNat he
    rw [UInt8.toNat_ofNat', Nat.mod_eq_of_lt (by omega)] at hvalue
    omega
  simp only [String.utf8EncodeChar] at h
  split at h
  · next hle =>
    have hbyte := congrArg UInt8.toNat (List.cons.inj h).1
    rw [UInt8.toNat_ofNat', Nat.mod_eq_of_lt (by omega)] at hbyte
    exact Char.toNat_inj.mp hbyte
  · split at h
    · exact absurd (List.cons.inj h).1 (hnat _ _ _ (by decide) (by decide) (by decide))
    · split at h <;>
        exact absurd (List.cons.inj h).1 (hnat _ _ _ (by decide) (by decide) (by decide))

private theorem isDots_of_isDots_encode (h : isDots (encode keptPath s) = true) :
    isDots s = true := by
  by_cases hkept : ∀ c ∈ s, keptPath c = true
  · rwa [encode_eq_self hkept] at h
  · push Not at hkept
    obtain ⟨c, hc, hnot⟩ := hkept
    obtain ⟨a, b, rfl⟩ := List.append_of_mem hc
    obtain ⟨byte, bytes, hcode⟩ :=
      List.exists_cons_of_ne_nil (String.utf8EncodeChar_ne_nil (c := c))
    have htext : encode keptPath (a ++ c :: b) = encode keptPath a ++ encodeByte byte ++
        (bytes.flatMap encodeByte ++ encode keptPath b) := by
      simp [encode, encodeChar, hnot, hcode]
    rw [htext] at h
    obtain rfl := eq_of_isDots_append h
    obtain rfl := eq_dot_of_utf8EncodeChar hcode
    exact absurd rfl hnot

/-! ## Segments -/

/-- A segment of a path that has been read. -/
structure IsSegment (k : SchemeKind) (s : List Char) : Prop where
  isSlash : ∀ c ∈ s, isSlash k c = false
  kept : ∀ c ∈ s, keptPath c = true
  isDots : isDots s = false

/-- The segments of a path that has been read; the path of a special scheme has one. -/
structure IsPath (k : SchemeKind) (l : List (List Char)) : Prop where
  segment : ∀ s ∈ l, IsSegment k s
  isSpecial : l = [] → k.isSpecial = false

/-- Nothing is a segment. -/
theorem IsSegment.nil : IsSegment k [] where
  isSlash := List.forall_mem_nil _
  kept := List.forall_mem_nil _
  isDots := by decide

/-- What is between slashes and stands for no directory is encoded as a segment. -/
theorem isSegment_encode (hslash : ∀ c ∈ s, isSlash k c = false) (hdots : isDots s = false) :
    IsSegment k (encode keptPath s) where
  isSlash c hc := by
    have hescape : ∀ c ∈ escapeChars, c ≠ '/' ∧ c ≠ '\\' := Text.forall_mem_of_all (by decide)
    rcases mem_encode hc with ⟨hmem, -⟩ | hmem
    · exact hslash c hmem
    · obtain ⟨hne, hne'⟩ := hescape c hmem
      simp [Url.isSlash, hne, hne']
  kept c hc := kept_of_mem_encode (by decide) hc
  isDots := by
    rw [Bool.eq_false_iff] at hdots ⊢
    exact mt isDots_of_isDots_encode hdots

private theorem isSegment_drive {letter : Char} (h : letter.isAlpha = true) :
    IsSegment k [letter, ':'] := by
  have hall := Text.forall_ascii (p := fun c ↦ c.isAlpha = true →
    c ≠ '/' ∧ c ≠ '\\' ∧ keptPath c = true ∧ isDots [c, ':'] = false) (by decide +kernel)
  have halnum : letter.isAlphanum = true := by simp [Char.isAlphanum, h]
  have hlt := (toNat_of_isAlphanum halnum).2
  obtain ⟨hslash, hback, hkept, hdots⟩ := hall letter (hlt.trans (by decide)) h
  refine ⟨?_, ?_, hdots⟩
  · simp [Url.isSlash, hslash, hback]
  · simpa using ⟨hkept, rfl⟩

private theorem isSegment_settle (done : List (List Char)) (hslash : ∀ c ∈ s, isSlash k c = false)
    (hdots : isDots s = false) : IsSegment k (settle k done s) := by
  rcases settle_cases k done s with h | ⟨letter, mark, -, hletter, h⟩
  · exact h ▸ isSegment_encode hslash hdots
  · exact h ▸ isSegment_drive hletter

/-- The segments of a path are those of its pieces, behind the segments before them. -/
theorem isSegment_of_mem_normalize {done pieces : List (List Char)}
    (hdone : ∀ s ∈ done, IsSegment k s) (hpieces : ∀ p ∈ pieces, ∀ c ∈ p, isSlash k c = false) :
    ∀ s ∈ normalize k done pieces, IsSegment k s := by
  induction pieces generalizing done with
  | nil => simpa [normalize] using hdone
  | cons piece rest ih =>
    obtain ⟨hpiece, hrest⟩ := List.forall_mem_cons.mp hpieces
    have hlast : ∀ s ∈ (if rest.isEmpty then [[]] else []), IsSegment k s := by
      split
      · exact List.forall_mem_singleton.mpr .nil
      · exact List.forall_mem_nil _
    rw [normalize]
    split
    · refine ih (List.forall_mem_append.mpr ⟨hlast, fun s hs ↦ ?_⟩) hrest
      exact hdone s (mem_of_mem_above hs)
    · next hdouble =>
      split
      · exact ih (List.forall_mem_append.mpr ⟨hlast, hdone⟩) hrest
      · next hsingle =>
        have hdots : isDots piece = false := by
          simp only [isDots, hdouble, hsingle, Bool.or_self]
        exact ih (List.forall_mem_cons.mpr ⟨isSegment_settle done hpiece hdots, hdone⟩) hrest

/-- There is a last segment, since the last piece gives one. -/
theorem normalize_ne_nil {done pieces : List (List Char)} (hne : pieces ≠ []) :
    normalize k done pieces ≠ [] := by
  induction pieces generalizing done with
  | nil => exact absurd rfl hne
  | cons piece rest ih =>
    cases rest with
    | nil =>
      rw [normalize]
      split
      · simp [normalize]
      · split <;> simp [normalize]
    | cons next rest =>
      rw [normalize]
      split
      · exact ih (List.cons_ne_nil _ _)
      · split <;> exact ih (List.cons_ne_nil _ _)

private theorem settle_of_ne_nil {done : List (List Char)} (hne : done ≠ []) (h : IsSegment k s) :
    settle k done s = s := by
  rw [settle, if_neg (by simp [hne]), encode_eq_self h.kept]

private theorem settle_of_ne_file (hk : k ≠ .file) (done : List (List Char)) (h : IsSegment k s) :
    settle k done s = s := by
  rw [settle, if_neg (by simp [hk]), encode_eq_self h.kept]

private theorem normalize_of_ne_nil {done pieces : List (List Char)} (hne : done ≠ [])
    (h : ∀ p ∈ pieces, IsSegment k p) : normalize k done pieces = done.reverse ++ pieces := by
  induction pieces generalizing done with
  | nil => simp [normalize]
  | cons piece rest ih =>
    obtain ⟨hpiece, hrest⟩ := List.forall_mem_cons.mp h
    have hdots := hpiece.isDots
    rw [isDots, Bool.or_eq_false_iff] at hdots
    rw [normalize, if_neg (by simp [hdots.2]), if_neg (by simp [hdots.1]),
      settle_of_ne_nil hne hpiece, ih (List.cons_ne_nil _ _) hrest]
    simp

/-- Segments with the drive of a file in front written with a colon. -/
def settleFirst (k : SchemeKind) : List (List Char) → List (List Char)
  | [] => []
  | s :: rest => settle k [] s :: rest

/-- But for the drive of a file, segments are their own segments. -/
theorem normalize_of_isSegment {pieces : List (List Char)} (h : ∀ p ∈ pieces, IsSegment k p) :
    normalize k [] pieces = settleFirst k pieces := by
  cases pieces with
  | nil => rfl
  | cons piece rest =>
    obtain ⟨hpiece, hrest⟩ := List.forall_mem_cons.mp h
    have hdots := hpiece.isDots
    rw [isDots, Bool.or_eq_false_iff] at hdots
    rw [normalize, if_neg (by simp [hdots.2]), if_neg (by simp [hdots.1]),
      normalize_of_ne_nil (List.cons_ne_nil _ _) hrest]
    rfl

/-- Where no drive is in front of the path of a file, segments stay as they are. -/
theorem settleFirst_of_ne_file (hk : k ≠ .file) (h : ∀ s ∈ l, IsSegment k s) :
    settleFirst k l = l := by
  cases l with
  | nil => rfl
  | cons s rest => rw [settleFirst, settle_of_ne_file hk [] (h s List.mem_cons_self)]

/-- What is read between slashes are segments. -/
theorem isPath_segments (k : SchemeKind) (s : List Char) : IsPath k (segments k s) where
  segment := by
    apply isSegment_of_mem_normalize (List.forall_mem_nil _)
    exact fun piece hpiece ↦ Text.eq_false_of_mem_splitOnP hpiece
  isSpecial h := absurd h (normalize_ne_nil (List.splitOnP_ne_nil _ _))

/-- Segments are read back from between their slashes. -/
theorem segments_intercalate (h : ∀ s ∈ l, IsSegment k s) (hne : l ≠ []) :
    segments k (['/'].intercalate l) = settleFirst k l := by
  have hslash : ∀ c ∈ ['/'].intercalate l, isSlash k c = (c == '/') := by
    intro c hc
    rcases Text.mem_intercalate hc with hc | ⟨s, hs, hc⟩
    · rw [List.mem_singleton.mp hc]
      rfl
    · have hno := (h s hs).isSlash c hc
      rw [hno]
      rw [isSlash, Bool.or_eq_false_iff, decide_eq_false_iff_not] at hno
      simp [hno.1]
  have hsplit : (['/'].intercalate l).splitOn '/' = l := by
    apply List.splitOn_intercalate '/' _ hne
    intro s hs hc
    cases (h s hs).isSlash '/' hc
  rw [segments, Text.splitOnP_congr hslash, ← List.splitOn_eq_splitOnP, hsplit,
    normalize_of_isSegment h]

/-! ## Paths -/

/-- A path is its segments with slashes between them, behind another slash. -/
theorem render_segments (hne : l ≠ []) :
    (Path.segments l).render = '/' :: ['/'].intercalate l := by
  induction l with
  | nil => exact absurd rfl hne
  | cons s rest ih =>
    cases rest with
    | nil => simp [Path.render]
    | cons next rest =>
      have hrest := ih (List.cons_ne_nil _ _)
      rw [Path.render] at hrest ⊢
      rw [List.flatMap_cons, hrest, List.intercalate_cons_cons]
      simp

/-- The segments of a path are read back behind the slash in front of it. -/
theorem segments_dropSlash_render (h : ∀ s ∈ l, IsSegment k s) (hne : l ≠ []) :
    segments k (dropSlash k (Path.segments l).render) = settleFirst k l := by
  have hslash : isSlash k '/' = true := rfl
  rw [render_segments hne, dropSlash, if_pos hslash, segments_intercalate h hne]

/-- A path behind an authority is read back. -/
theorem pathBehindHost_render (hk : k ≠ .file) (h : IsPath k l) :
    pathBehindHost k (Path.segments l).render = .segments l := by
  rw [pathBehindHost]
  by_cases hne : l = []
  · subst hne
    exact if_pos (by simp [Path.render, h.isSpecial rfl])
  · rw [if_neg (by simp [render_segments hne]), segments_dropSlash_render h.segment hne,
      settleFirst_of_ne_file hk h.segment]

/-- The path behind an authority has segments. -/
theorem exists_pathBehindHost (k : SchemeKind) (s : List Char) :
    ∃ l, IsPath k l ∧ pathBehindHost k s = .segments l := by
  rw [pathBehindHost]
  split
  · next h =>
    rw [Bool.and_eq_true] at h
    exact ⟨[], ⟨List.forall_mem_nil _, fun _ ↦ by simpa using h.2⟩, rfl⟩
  · exact ⟨_, isPath_segments k _, rfl⟩

/-- Without the empty segments in front, there is still a path. -/
theorem isPath_dropEmpty (h : IsPath k l) : IsPath k (dropEmpty l) := by
  fun_induction dropEmpty l with
  | case1 s rest ih =>
    exact ih ⟨fun t ht ↦ h.segment t (List.mem_cons_of_mem _ ht),
      fun hnil ↦ absurd hnil (List.cons_ne_nil _ _)⟩
  | case2 l => exact h

/-- Empty segments are dropped at once. -/
theorem dropEmpty_dropEmpty (l : List (List Char)) : dropEmpty (dropEmpty l) = dropEmpty l := by
  fun_induction dropEmpty l with
  | case1 s rest ih => exact ih
  | case2 l hl => rw [dropEmpty.eq_2 _ hl]

/-- A path has no characters that end one. -/
theorem endsPath_of_mem_render (h : ∀ s ∈ l, IsSegment k s) :
    ∀ c ∈ (Path.segments l).render, endsPath c = false := by
  intro c hc
  obtain ⟨s, hs, hc⟩ := List.mem_flatMap.mp hc
  rcases List.mem_cons.mp hc with rfl | hc
  · rfl
  · have hkept := (h s hs).kept c hc
    rw [endsPath, Bool.or_eq_false_iff, decide_eq_false_iff_not, decide_eq_false_iff_not]
    constructor <;>
    · rintro rfl
      cases hkept

end ContainerBuild.Url
