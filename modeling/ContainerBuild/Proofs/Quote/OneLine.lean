import ContainerBuild.Json.Basic
import ContainerBuild.Proofs.Text.OneLine
import ContainerBuild.Quote

/-!
# Line feeds in quotes

Quoting for a shell and for an assignment keeps a line feed as it is, and so a quoted text stays
on one line exactly when the text does. A list of texts escapes its line feeds and always stays
on one line. No quoted text ends in a backslash.
-/

namespace ContainerBuild.Quote

open Text (IsOneLine IsClosed)

private theorem newline_mem_shellChars {s : List Char} : '\n' ∈ shellChars s ↔ '\n' ∈ s := by
  induction s with
  | nil => rfl
  | cons c s ih =>
    rw [shellChars]
    split
    · next hc => simp [hc, ih]
    · simp [ih]

private theorem newline_mem_valueChars {s : List Char} : '\n' ∈ valueChars s ↔ '\n' ∈ s := by
  fun_induction valueChars s <;> simp_all

private theorem newline_mem_literalChars {s : List Char} :
    '\n' ∈ literalChars s ↔ '\n' ∈ s := by
  induction s with
  | nil => rfl
  | cons c s ih =>
    rw [literalChars]
    split <;> simp [ih]

variable (s : String)

/-- A shell word stays on one line when its text does. -/
theorem isOneLine_shellWord : IsOneLine (shellWord s) ↔ IsOneLine s := by
  simp [IsOneLine, shellWord, newline_mem_shellChars]

/-- Shell words stay on one line when their texts do. -/
theorem isOneLine_shellWords (texts : List String) :
    IsOneLine (shellWords texts) ↔ ∀ text ∈ texts, IsOneLine text := by
  rw [shellWords, Text.isOneLine_intercalate (by decide), List.forall_mem_map]
  simp only [isOneLine_shellWord]

/-- A quoted value stays on one line when its text does. -/
theorem isOneLine_value : IsOneLine (value s) ↔ IsOneLine s := by
  simp [IsOneLine, value, newline_mem_valueChars]

/-- A literal text between double quotes stays on one line when the text does. -/
theorem isOneLine_literal : IsOneLine (literal s) ↔ IsOneLine s := by
  simp [IsOneLine, literal, newline_mem_literalChars]

/-- A shell word is closed. -/
theorem isClosed_shellWord : IsClosed (shellWord s) :=
  ⟨'\'', by rw [shellWord, String.toList_ofList, List.getLast?_concat], by decide⟩

/-- A quoted value is closed. -/
theorem isClosed_value : IsClosed (value s) :=
  ⟨'"', by rw [value, String.toList_ofList, List.getLast?_concat], by decide⟩

end ContainerBuild.Quote

namespace ContainerBuild.Json

open Text (IsOneLine IsClosed)

private theorem newline_not_mem_escapeChar (c : Char) : '\n' ∉ escapeChar c := by
  have hdigit : ∀ n < 16, hexDigit n ≠ '\n' := by decide
  have hcode (hc : c.toNat < 0x20) :
      '\n' ∉ ['\\', 'u', '0', '0', hexDigit (c.toNat / 16), hexDigit (c.toNat % 16)] := by
    have hhigh := hdigit (c.toNat / 16) (by omega)
    have hlow := hdigit (c.toNat % 16) (by omega)
    simp [hhigh.symm, hlow.symm]
  have hself (hc : c ≠ '\n') : '\n' ∉ [c] := by simpa using hc.symm
  rw [escapeChar]
  repeat' split
  all_goals first
    | decide
    | exact hcode ‹_›
    | exact hself ‹_›

/-- A list of texts stays on one line, whatever the texts are. -/
theorem isOneLine_quoteAll (texts : List String) : IsOneLine (quoteAll texts) := by
  have hquote (text : String) : IsOneLine (quote text) := by
    simp [IsOneLine, quote, newline_not_mem_escapeChar]
  rw [quoteAll, Text.isOneLine_append, Text.isOneLine_append,
    Text.isOneLine_intercalate (by decide), List.forall_mem_map]
  exact ⟨⟨by decide, fun text _ ↦ hquote text⟩, by decide⟩

/-- A list of texts is closed. -/
theorem isClosed_quoteAll (texts : List String) : IsClosed (quoteAll texts) := by
  rw [quoteAll]
  exact Text.IsClosed.append ⟨']', rfl, by decide⟩ _

end ContainerBuild.Json
