import ContainerBuild.Text.Lines
import Mathlib.Data.List.DropRight

/-!
# Trimming and first lines

What is left of a text when characters of a class are dropped at both ends neither begins nor ends
with one, and the text is this between such characters. Trimming drops blanks, so a text is its
trimmed form between blanks. The first line of a text is what stands before the first line feed,
trimmed: a carriage return before the line feed is a blank, so it makes no difference who drops it.
-/

namespace ContainerBuild.Text

/-! ### Dropping at both ends -/

variable {p : Char → Bool}

private theorem dropEndWhile_eq_rdropWhile (p : Char → Bool) (s : List Char) :
    dropEndWhile p s = s.rdropWhile p := rfl

/-- Drops the characters at both ends that satisfy `p`. -/
def dropEnds (p : Char → Bool) (s : List Char) : List Char := dropEndWhile p (s.dropWhile p)

/-- Dropped characters in front of a text do not change what is left of it. -/
theorem dropEnds_append_left {a : List Char} (h : ∀ c ∈ a, p c = true) (s : List Char) :
    dropEnds p (a ++ s) = dropEnds p s := by
  rw [dropEnds, List.dropWhile_append_of_pos h, dropEnds]

/-- Dropped characters behind a text do not change what is left of it. -/
theorem dropEnds_append_right {b : List Char} (h : ∀ c ∈ b, p c = true) (s : List Char) :
    dropEnds p (s ++ b) = dropEnds p s := by
  rw [dropEnds, dropEnds, List.dropWhile_append]
  split
  · next he =>
    have hs : s.dropWhile p = [] := List.isEmpty_iff.mp he
    have hb : b.dropWhile p = [] := List.dropWhile_eq_nil_iff.mpr h
    rw [hs, hb]
  · rw [dropEndWhile, dropEndWhile, List.reverse_append, List.dropWhile_append_of_pos]
    intro c hc
    exact h c (List.mem_reverse.mp hc)

/-- A text is what is left of it between dropped characters. -/
theorem exists_eq_append_dropEnds (p : Char → Bool) (s : List Char) : ∃ a b : List Char,
    s = a ++ dropEnds p s ++ b ∧ (∀ c ∈ a, p c = true) ∧ ∀ c ∈ b, p c = true := by
  refine ⟨s.takeWhile p, (s.dropWhile p).rtakeWhile p, ?_, ?_, ?_⟩
  · rw [dropEnds, dropEndWhile_eq_rdropWhile, List.append_assoc,
      List.rdropWhile_append_rtakeWhile, List.takeWhile_append_dropWhile]
  · exact fun c hc ↦ List.mem_takeWhile_imp hc
  · exact fun c hc ↦ List.mem_rtakeWhile_imp hc

/-- What is left of a text is a part of it. -/
theorem dropEnds_sublist (p : Char → Bool) (s : List Char) : (dropEnds p s).Sublist s :=
  (List.rdropWhile_prefix p (s.dropWhile p)).sublist.trans (List.dropWhile_sublist p)

/-- What is left does not begin with a dropped character. -/
theorem head_dropEnds {s : List Char} (h : dropEnds p s ≠ []) :
    p ((dropEnds p s).head h) = false := by
  have hne : s.dropWhile p ≠ [] := by
    intro he
    rw [dropEnds, he] at h
    exact h rfl
  have hp : dropEnds p s <+: s.dropWhile p := List.rdropWhile_prefix _ _
  rw [hp.head h]
  simpa using List.head_dropWhile_not p hne

/-- What is left does not end with a dropped character. -/
theorem getLast_dropEnds {s : List Char} (h : dropEnds p s ≠ []) :
    p ((dropEnds p s).getLast h) = false := by
  have hl := List.rdropWhile_last_not p (s.dropWhile p) h
  exact Bool.not_eq_true _ ▸ hl

/-- A text with no dropped character at either end stays as it is. -/
theorem dropEnds_eq_self {s : List Char} (hhead : ∀ h : s ≠ [], p (s.head h) = false)
    (hlast : ∀ h : s ≠ [], p (s.getLast h) = false) : dropEnds p s = s := by
  have hdrop : s.dropWhile p = s := by
    cases s with
    | nil => rfl
    | cons c rest => exact List.dropWhile_cons_of_neg (by simpa using hhead (List.cons_ne_nil _ _))
  rw [dropEnds, hdrop, dropEndWhile_eq_rdropWhile, List.rdropWhile_eq_self_iff]
  intro h
  simpa using hlast h

/-- A text stays as it is exactly when it neither begins nor ends with a dropped character. -/
theorem dropEnds_eq_self_iff {s : List Char} : dropEnds p s = s ↔
    (∀ c ∈ s.head?, p c = false) ∧ ∀ c ∈ s.getLast?, p c = false := by
  constructor
  · intro h
    constructor
    · intro c hc
      rw [← h] at hc
      have hne : dropEnds p s ≠ [] := fun he ↦ by
        rw [he] at hc
        cases hc
      rw [← (List.head_eq_iff_head?_eq_some hne).mpr hc]
      exact head_dropEnds hne
    · intro c hc
      rw [← h] at hc
      have hne : dropEnds p s ≠ [] := fun he ↦ by
        rw [he] at hc
        cases hc
      rw [← (List.getLast_eq_iff_getLast?_eq_some hne).mpr hc]
      exact getLast_dropEnds hne
  · rintro ⟨hhead, hlast⟩
    exact dropEnds_eq_self (fun h ↦ hhead _ (List.head?_eq_some_head h))
      fun h ↦ hlast _ (List.getLast?_eq_some_getLast h)

/-- Dropping a second time changes nothing. -/
@[simp] theorem dropEnds_dropEnds (s : List Char) : dropEnds p (dropEnds p s) = dropEnds p s :=
  dropEnds_eq_self head_dropEnds getLast_dropEnds

/-- What is left of a reversed text is what is left of the text, reversed. -/
theorem dropEnds_reverse (s : List Char) : dropEnds p s.reverse = (dropEnds p s).reverse := by
  obtain ⟨a, b, hs, ha, hb⟩ := exists_eq_append_dropEnds p s
  have hself : dropEnds p (dropEnds p s).reverse = (dropEnds p s).reverse := by
    refine dropEnds_eq_self (fun h ↦ ?_) fun h ↦ ?_
    · rw [List.head_reverse]
      exact getLast_dropEnds _
    · rw [List.getLast_reverse]
      exact head_dropEnds _
  have hreverse : s.reverse = b.reverse ++ (dropEnds p s).reverse ++ a.reverse := by
    conv_lhs => rw [hs]
    simp
  rw [hreverse, dropEnds_append_right fun c hc ↦ ha c (List.mem_reverse.mp hc),
    dropEnds_append_left fun c hc ↦ hb c (List.mem_reverse.mp hc), hself]

/-! ### Trimming -/

/-- Trimming drops the blanks at both ends. -/
theorem trimChars_eq_dropEnds (s : List Char) : trimChars s = dropEnds isBlank s := rfl

/-- Blanks in front of a text do not change what is left of it. -/
theorem trimChars_append_left {a : List Char} (h : ∀ c ∈ a, isBlank c = true) (s : List Char) :
    trimChars (a ++ s) = trimChars s := dropEnds_append_left h s

/-- Blanks behind a text do not change what is left of it. -/
theorem trimChars_append_right {b : List Char} (h : ∀ c ∈ b, isBlank c = true) (s : List Char) :
    trimChars (s ++ b) = trimChars s := dropEnds_append_right h s

/-- A text is its trimmed form between blanks. -/
theorem exists_eq_append_trimChars (s : List Char) : ∃ a b : List Char,
    s = a ++ trimChars s ++ b ∧ (∀ c ∈ a, isBlank c = true) ∧ ∀ c ∈ b, isBlank c = true :=
  exists_eq_append_dropEnds isBlank s

/-- Trimming adds no character. -/
theorem mem_of_mem_trimChars {c : Char} {s : List Char} (h : c ∈ trimChars s) : c ∈ s :=
  (dropEnds_sublist isBlank s).mem h

/-- Nothing is left of a text exactly when it is blank. -/
theorem trimChars_eq_nil_iff {s : List Char} :
    trimChars s = [] ↔ ∀ c ∈ s, isBlank c = true := by
  constructor
  · intro h
    obtain ⟨a, b, hs, ha, hb⟩ := exists_eq_append_trimChars s
    rw [h, List.append_nil] at hs
    rw [hs]
    intro c hc
    rcases List.mem_append.mp hc with hc | hc
    · exact ha c hc
    · exact hb c hc
  · intro h
    have := trimChars_append_right h []
    simpa using this

/-- A trimmed text does not begin with a blank. -/
theorem isBlank_head_trimChars {s : List Char} (h : trimChars s ≠ []) :
    isBlank ((trimChars s).head h) = false := head_dropEnds h

private theorem isBlank_getLast_trimChars {s : List Char} (h : trimChars s ≠ []) :
    isBlank ((trimChars s).getLast h) = false := getLast_dropEnds h

/-- A text with no blank at either end is trimmed. -/
theorem trimChars_eq_self {s : List Char} (hhead : ∀ h : s ≠ [], isBlank (s.head h) = false)
    (hlast : ∀ h : s ≠ [], isBlank (s.getLast h) = false) : trimChars s = s :=
  dropEnds_eq_self hhead hlast

/-- Trimming a second time changes nothing. -/
@[simp] theorem trimChars_trimChars (s : List Char) : trimChars (trimChars s) = trimChars s :=
  trimChars_eq_self isBlank_head_trimChars isBlank_getLast_trimChars

private theorem trimChars_takeWhile_append {b : List Char} (h : ∀ c ∈ b, isBlank c = true)
    (p : Char → Bool) (s : List Char) :
    trimChars ((s ++ b).takeWhile p) = trimChars (s.takeWhile p) := by
  rw [List.takeWhile_append]
  split
  · next hs =>
    have hall : s.takeWhile p = s :=
      (List.takeWhile_prefix p).eq_of_length hs
    rw [hall]
    exact trimChars_append_right (fun c hc ↦ h c ((List.takeWhile_subset p) hc)) s
  · rfl

/-- What is left of a text is the text of its trimmed characters. -/
@[simp] theorem toList_trim (s : String) : (trim s).toList = trimChars s.toList := by
  simp [trim]

/-- Trimming a text a second time changes nothing. -/
@[simp] theorem trim_trim (s : String) : trim (trim s) = trim s := by
  apply String.toList_inj.mp
  rw [toList_trim, toList_trim, trimChars_trimChars]

/-- A text without blanks is trimmed. -/
theorem trim_eq_self {s : String} (h : ∀ c ∈ s.toList, isBlank c = false) : trim s = s := by
  apply String.toList_inj.mp
  rw [toList_trim]
  exact trimChars_eq_self (fun hne ↦ h _ (List.head_mem hne)) (fun hne ↦ h _ (List.getLast_mem hne))

/-- A text that is not blank gives its trimmed form. -/
theorem nonBlank?_eq_some_iff {s t : String} :
    nonBlank? s = some t ↔ trim s ≠ "" ∧ t = trim s := by
  simp only [nonBlank?]
  split
  · next h => simp [h]
  · next h => simp [h, eq_comm]

/-! ### The first line -/

private theorem trimChars_reverse_dropReturn (line : List Char) :
    trimChars (dropReturn line).reverse = trimChars line.reverse := by
  unfold dropReturn
  split
  · next line =>
    rw [List.reverse_cons]
    exact (trimChars_append_right (List.all_eq_true.mp rfl) _).symm
  · rfl

private theorem trimChars_head_linesFrom (line s : List Char) :
    trimChars (((linesFrom line s).head?).getD []) =
      trimChars (line.reverse ++ s.takeWhile (· ≠ '\n')) := by
  induction s generalizing line with
  | nil =>
    unfold linesFrom
    split
    · next h => simp [List.isEmpty_iff.mp h]
    · simp
  | cons c rest ih =>
    unfold linesFrom
    split
    · next h => simp [h, trimChars_reverse_dropReturn]
    · next h => simp [h, ih]

/-- The first line is what stands before the first line feed, trimmed. -/
theorem toList_firstLine (s : String) :
    (firstLine s).toList = trimChars (s.toList.takeWhile (· ≠ '\n')) := by
  have h := trimChars_head_linesFrom [] s.toList
  simp only [List.reverse_nil, List.nil_append] at h
  rw [← h]
  unfold firstLine lines
  cases linesFrom [] s.toList with
  | nil => rfl
  | cons line rest => simp

/-- A text without a line feed is its own first line. -/
theorem firstLine_eq_trim {s : String} (h : '\n' ∉ s.toList) : firstLine s = trim s := by
  apply String.toList_inj.mp
  rw [toList_firstLine, toList_trim]
  congr 1
  exact List.takeWhile_eq_self_iff.mpr fun c hc ↦ by
    simpa using fun he : c = '\n' ↦ h (he ▸ hc)

/-- The first line has no line feed in it. -/
theorem newline_not_mem_firstLine (s : String) : '\n' ∉ (firstLine s).toList := by
  rw [toList_firstLine]
  intro h
  have := List.mem_takeWhile_imp (mem_of_mem_trimChars h)
  simp at this

/-- The first line of a first line is the line itself. -/
@[simp] theorem firstLine_firstLine (s : String) : firstLine (firstLine s) = firstLine s := by
  rw [firstLine_eq_trim (newline_not_mem_firstLine s)]
  apply String.toList_inj.mp
  rw [toList_trim, toList_firstLine, trimChars_trimChars]

private theorem mem_of_mem_takeWhile_append_cons {p : Char → Bool} {c d : Char}
    {a rest : List Char} (hd : p d = false) (h : c ∈ (a ++ d :: rest).takeWhile p) : c ∈ a := by
  rw [List.takeWhile_append] at h
  split at h
  · simpa [hd] using h
  · exact List.takeWhile_subset p h

/-- Trimming a text keeps its first line, unless that line is blank. -/
theorem firstLine_trim {s : String} (h : firstLine s ≠ "") : firstLine (trim s) = firstLine s := by
  apply String.toList_inj.mp
  obtain ⟨a, b, hs, ha, hb⟩ := exists_eq_append_trimChars s.toList
  have hline : '\n' ∉ a := by
    -- otherwise the first line would be a part of the blanks in front
    intro hm
    obtain ⟨front, back, rfl⟩ := List.append_of_mem hm
    apply h
    apply String.toList_inj.mp
    rw [toList_firstLine, String.toList_empty, trimChars_eq_nil_iff]
    intro c hc
    rw [hs, List.append_assoc, List.append_assoc, List.cons_append] at hc
    exact ha c (List.mem_append_left _ (mem_of_mem_takeWhile_append_cons (by simp) hc))
  have hall : ∀ c ∈ a, decide (c ≠ '\n') = true := fun c hc ↦ by
    simpa using fun he : c = '\n' ↦ hline (he ▸ hc)
  rw [toList_firstLine, toList_firstLine, toList_trim]
  generalize trimChars s.toList = m at hs
  rw [hs, List.append_assoc, List.takeWhile_append_of_pos hall, trimChars_append_left ha,
    trimChars_takeWhile_append hb]

end ContainerBuild.Text
