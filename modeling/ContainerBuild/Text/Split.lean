/-!
# Splitting and searching

Operations on character lists that cut at a character or at a given text, and the
`String` forms that the rest of the library uses.
-/

namespace ContainerBuild.Text

/-- The pieces between the occurrences of `sep`; always at least one. -/
def splitOn (sep : Char) (s : String) : List String :=
  (s.toList.splitOn sep).map String.ofList

/-- Whether `needle` stands somewhere in `hay`. -/
def occursIn (needle : List Char) : List Char → Bool
  | [] => needle.isEmpty
  | c :: rest => needle.isPrefixOf (c :: rest) || occursIn needle rest

/-- Whether the text `needle` stands somewhere in the text `hay`. -/
def contains (hay needle : String) : Bool := occursIn needle.toList hay.toList

/-- What follows `lead` at the front of a character list. -/
def after? : (lead : List Char) → List Char → Option (List Char)
  | [], s => some s
  | _ :: _, [] => none
  | a :: lead, c :: s => if a = c then after? lead s else none

/-- What follows `lead` at the front of a text. -/
def dropLead? (lead s : String) : Option String :=
  (after? lead.toList s.toList).map String.ofList

/-- Cuts at the first occurrence of a character. -/
def cutAt (sep : Char) : List Char → Option (List Char × List Char)
  | [] => none
  | c :: rest =>
    if c = sep then some ([], rest)
    else (cutAt sep rest).map fun (before, behind) ↦ (c :: before, behind)

/-- Cuts at the first occurrence of a text that is not empty. -/
def cutAtText (sep : List Char) : List Char → Option (List Char × List Char)
  | [] => none
  | c :: rest =>
    match after? sep (c :: rest) with
    | some behind => some ([], behind)
    | none => (cutAtText sep rest).map fun (before, behind) ↦ (c :: before, behind)

/-- The two parts around the first `sep`. -/
def splitOnce (sep : Char) (s : String) : Option (String × String) :=
  (cutAt sep s.toList).map fun (a, b) ↦ (String.ofList a, String.ofList b)

/-- A cut gives the text back around its separator. -/
theorem eq_append_of_cutAt {sep : Char} {s a b : List Char} (h : cutAt sep s = some (a, b)) :
    s = a ++ sep :: b := by
  induction s generalizing a b with
  | nil => simp [cutAt] at h
  | cons c rest ih =>
    unfold cutAt at h
    split at h
    next hc =>
      simp only [Option.some.injEq, Prod.mk.injEq] at h
      obtain ⟨rfl, rfl⟩ := h
      simp [hc]
    next =>
      obtain ⟨⟨a', b'⟩, hr, he⟩ := Option.map_eq_some_iff.1 h
      simp only [Prod.mk.injEq] at he
      obtain ⟨rfl, rfl⟩ := he
      simp [ih hr]

/-- What stands before a cut holds no separator. -/
theorem not_mem_of_cutAt {sep : Char} {s a b : List Char} (h : cutAt sep s = some (a, b)) :
    sep ∉ a := by
  induction s generalizing a with
  | nil => cases h
  | cons c rest ih =>
    rw [cutAt] at h
    split at h
    · cases h
      exact List.not_mem_nil
    · next hc =>
      obtain ⟨⟨a', b'⟩, hr, he⟩ := Option.map_eq_some_iff.mp h
      cases he
      simp [ih hr, Ne.symm hc]

/-- A text is cut at the first separator. -/
theorem cutAt_append {sep : Char} {a : List Char} (h : sep ∉ a) (b : List Char) :
    cutAt sep (a ++ sep :: b) = some (a, b) := by
  induction a with
  | nil => simp [cutAt]
  | cons c a ih =>
    rw [List.mem_cons, not_or] at h
    rw [List.cons_append, cutAt, if_neg (Ne.symm h.1), ih h.2, Option.map_some]

/-- A text without the separator is not cut. -/
theorem cutAt_eq_none_iff {sep : Char} {s : List Char} : cutAt sep s = none ↔ sep ∉ s := by
  induction s with
  | nil => simp [cutAt]
  | cons c s ih =>
    rw [cutAt, List.mem_cons, not_or]
    split
    · next hc => simp [hc]
    · next hc => simp [ih, Ne.symm hc]

/-- The two parts around the first separator give the text back, and the first one has no
separator. -/
theorem splitOnce_eq_some_iff {sep : Char} {s a b : String} :
    splitOnce sep s = some (a, b) ↔ sep ∉ a.toList ∧ s.toList = a.toList ++ sep :: b.toList := by
  rw [splitOnce, Option.map_eq_some_iff]
  constructor
  · rintro ⟨⟨front, behind⟩, hcut, heq⟩
    cases heq
    rw [String.toList_ofList, String.toList_ofList]
    exact ⟨not_mem_of_cutAt hcut, eq_append_of_cutAt hcut⟩
  · rintro ⟨hsep, hs⟩
    refine ⟨(a.toList, b.toList), ?_, by simp⟩
    rw [hs, cutAt_append hsep]

/-- What follows a text at the front is the rest of the whole. -/
theorem after?_eq_some_iff {lead s behind : List Char} :
    after? lead s = some behind ↔ s = lead ++ behind := by
  induction lead generalizing s with
  | nil => simp [after?]
  | cons a lead ih =>
    cases s with
    | nil => simp [after?]
    | cons c s =>
      rw [after?, List.cons_append, List.cons.injEq]
      split
      · next h => simp [ih, h]
      · next h => simp [Ne.symm h]

/-- What follows a text at the front of another one makes it whole. -/
theorem dropLead?_eq_some_iff {lead s behind : String} :
    dropLead? lead s = some behind ↔ s = lead ++ behind := by
  rw [dropLead?, Option.map_eq_some_iff]
  constructor
  · rintro ⟨rest, hrest, rfl⟩
    rw [← String.toList_inj, after?_eq_some_iff.mp hrest, String.toList_append,
      String.toList_ofList]
  · rintro rfl
    exact ⟨behind.toList, after?_eq_some_iff.mpr String.toList_append, String.ofList_toList⟩

/-- A cut at a text gives the whole back around it. -/
theorem eq_append_of_cutAtText {sep s a b : List Char} (h : cutAtText sep s = some (a, b)) :
    s = a ++ sep ++ b := by
  induction s generalizing a with
  | nil => cases h
  | cons c rest ih =>
    rw [cutAtText] at h
    split at h
    · next behind hafter =>
      cases h
      exact after?_eq_some_iff.mp hafter
    · obtain ⟨⟨a', b'⟩, hr, he⟩ := Option.map_eq_some_iff.mp h
      cases he
      rw [ih hr]
      rfl

/-- A text without the first character of another is not cut at that one. -/
theorem cutAtText_eq_none {x : Char} {sep s : List Char} (h : x ∉ s) :
    cutAtText (x :: sep) s = none := by
  induction s with
  | nil => rfl
  | cons c s ih =>
    rw [List.mem_cons, not_or] at h
    rw [cutAtText, after?, if_neg h.1]
    simp [ih h.2]

/-- A text is cut at the first place where another begins. -/
theorem cutAtText_append {x : Char} {sep a : List Char} (h : x ∉ a) (b : List Char) :
    cutAtText (x :: sep) (a ++ x :: sep ++ b) = some (a, b) := by
  induction a with
  | nil =>
    have hafter : after? (x :: sep) (x :: sep ++ b) = some b := after?_eq_some_iff.mpr rfl
    rw [List.nil_append, List.cons_append, cutAtText, ← List.cons_append, hafter]
  | cons c a ih =>
    rw [List.mem_cons, not_or] at h
    rw [List.cons_append, List.cons_append, cutAtText, after?, if_neg h.1]
    simp only [ih h.2, Option.map_some]

end ContainerBuild.Text
