import ContainerBuild.Proofs.Text.Words
import ContainerBuild.Text.Split

/-!
# Texts of one line

A text stays on one line when it has no line feed. Lines that are written one below the other
can be told apart again exactly when each of them stays on one line.
-/

namespace ContainerBuild.Text

/-- A text stays on one line. -/
def IsOneLine (s : String) : Prop := '\n' ∉ s.toList

instance (s : String) : Decidable (IsOneLine s) :=
  decidable_of_iff (s.toList.contains '\n' = false) (by simp [IsOneLine])

/-- A text does not go on in the next line: its last character is no backslash. -/
def IsClosed (s : String) : Prop := ∃ c, s.toList.getLast? = some c ∧ c ≠ '\\'

variable {a b s : String} {texts : List String}

/-- A text that is given by its characters stays on one line when none of them is a line feed. -/
theorem isOneLine_ofList {l : List Char} (h : l.contains '\n' = false) :
    IsOneLine (String.ofList l) := by
  simpa [IsOneLine] using h

/-- Two texts stay on one line together when each of them does. -/
theorem isOneLine_append : IsOneLine (a ++ b) ↔ IsOneLine a ∧ IsOneLine b := by
  rw [IsOneLine, String.toList_append, List.mem_append, not_or]
  rfl

/-- Texts with a separator between them stay on one line when each of them does. -/
theorem isOneLine_intercalate {sep : String} (h : IsOneLine sep) :
    IsOneLine (sep.intercalate texts) ↔ ∀ text ∈ texts, IsOneLine text := by
  rw [IsOneLine, String.toList_intercalate]
  constructor
  · intro hall text htext hbreak
    exact hall (mem_intercalate_of_mem (List.mem_map_of_mem htext) hbreak)
  · intro hall hbreak
    rcases mem_intercalate hbreak with hbreak | ⟨piece, hpiece, hbreak⟩
    · exact h hbreak
    · obtain ⟨text, htext, rfl⟩ := List.mem_map.mp hpiece
      exact hall text htext hbreak

/-- Texts that are put together stay on one line when each of them does. -/
theorem isOneLine_join : IsOneLine (String.join texts) ↔ ∀ text ∈ texts, IsOneLine text := by
  simp only [IsOneLine, String.toList_join, List.mem_flatMap, not_exists, not_and]

/-- A text without blanks stays on one line. -/
theorem isOneLine_of_isBlank (h : ∀ c ∈ s.toList, isBlank c = false) : IsOneLine s := by
  intro hbreak
  cases h '\n' hbreak

/-- What is put in front of a closed text leaves it closed. -/
theorem IsClosed.append (h : IsClosed b) (a : String) : IsClosed (a ++ b) := by
  obtain ⟨c, hlast, hc⟩ := h
  refine ⟨c, ?_, hc⟩
  rw [String.toList_append, List.getLast?_append, hlast, Option.some_or]

/-- Texts with a separator between them are closed when all of them are. -/
theorem isClosed_intercalate {sep : String} (hne : texts ≠ [])
    (h : ∀ text ∈ texts, IsClosed text) : IsClosed (sep.intercalate texts) := by
  induction texts with
  | nil => exact absurd rfl hne
  | cons text rest ih =>
    obtain ⟨htext, hrest⟩ := List.forall_mem_cons.mp h
    cases rest with
    | nil => rwa [String.intercalate_singleton]
    | cons next rest =>
      rw [String.intercalate_cons_cons]
      exact (ih (List.cons_ne_nil _ _) hrest).append _

/-- Lines that are written one below the other are the pieces between the line feeds exactly
when each of them stays on one line. -/
theorem splitOn_join_iff :
    splitOn '\n' (String.join (texts.map (· ++ "\n"))) = texts ++ [""] ↔
      ∀ text ∈ texts, IsOneLine text := by
  have hjoin : (String.join (texts.map (· ++ "\n"))).toList =
      ['\n'].intercalate (texts.map String.toList ++ [[]]) := by
    rw [String.toList_join]
    induction texts with
    | nil => rfl
    | cons text rest ih =>
      rw [List.map_cons, List.map_cons, List.flatMap_cons, List.cons_append,
        List.intercalate_cons_of_ne_nil (by simp), ih, String.toList_append]
      rfl
  constructor
  · intro h text htext
    have hmem : text ∈ splitOn '\n' (String.join (texts.map (· ++ "\n"))) := by
      rw [h]
      exact List.mem_append_left _ htext
    obtain ⟨piece, hpiece, rfl⟩ := List.mem_map.mp hmem
    rw [IsOneLine, String.toList_ofList]
    exact not_mem_of_mem_splitOn hpiece
  · intro h
    have hlines : ∀ line ∈ texts.map String.toList ++ [[]], '\n' ∉ line := by
      rw [List.forall_mem_append, List.forall_mem_map]
      exact ⟨h, by simp⟩
    rw [splitOn, hjoin, List.splitOn_intercalate _ hlines (by simp)]
    simp

end ContainerBuild.Text
