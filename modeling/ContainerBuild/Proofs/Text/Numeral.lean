import ContainerBuild.Proofs.Text.Decimal
import Mathlib.Data.List.Induction

/-!
# Numerals

A number is read from its digits, whether or not zeros lead them, and from nothing else.
-/

namespace ContainerBuild.Text

/-- The digits of a number, perhaps behind zeros. -/
def IsNumeral (s : List Char) (n : Nat) : Prop :=
  ∃ zeros, s = List.replicate zeros '0' ++ Nat.toDigits 10 n

private theorem toDigits_digitValue {c : Char} (h : isDigit c = true) :
    digitValue c < 10 ∧ Nat.toDigits 10 (digitValue c) = [c] := by
  obtain ⟨hlow, hhigh⟩ := toNat_of_isDigit h
  have hvalue : digitValue c = c.toNat - 48 := rfl
  have hlt : digitValue c < 10 := by omega
  refine ⟨hlt, ?_⟩
  rw [Nat.toDigits_of_lt_base hlt]
  congr 1
  apply Char.toNat_inj.mp
  rw [Nat.toNat_digitChar_of_lt_ten hlt]
  omega

private theorem digitsValue_concat (s : List Char) (c : Char) :
    digitsValue (s ++ [c]) = 10 * digitsValue s + digitValue c := by
  rw [digitsValue, List.foldl_append, digitsValue]
  rfl

private theorem digitsValue_replicate_append (zeros : Nat) (s : List Char) :
    digitsValue (List.replicate zeros '0' ++ s) = digitsValue s := by
  induction zeros with
  | zero => rfl
  | succ zeros ih =>
    rw [List.replicate_succ, List.cons_append]
    exact ih

private theorem IsNumeral.concat {s : List Char} {n : Nat} (h : IsNumeral s n) {c : Char}
    (hc : isDigit c = true) : IsNumeral (s ++ [c]) (10 * n + digitValue c) := by
  obtain ⟨zeros, rfl⟩ := h
  obtain ⟨hlt, hdigit⟩ := toDigits_digitValue hc
  rw [List.append_assoc, ← hdigit]
  by_cases hn : n = 0
  · -- The zero that was the number is one more in front.
    subst hn
    refine ⟨zeros + 1, ?_⟩
    rw [List.replicate_succ', List.append_assoc, Nat.mul_zero, Nat.zero_add]
    rfl
  · refine ⟨zeros, ?_⟩
    rw [Nat.toDigits_append_toDigits (by decide) (Nat.pos_of_ne_zero hn) hlt]

private theorem isNumeral_digitsValue {s : List Char} (hne : s ≠ [])
    (h : ∀ c ∈ s, isDigit c = true) :
    IsNumeral s (digitsValue s) := by
  induction s using List.reverseRecOn with
  | nil => exact absurd rfl hne
  | append_singleton s c ih =>
    have hc : isDigit c = true := h c (List.mem_append_right _ List.mem_cons_self)
    by_cases hs : s = []
    · subst hs
      have hvalue : digitsValue ([] ++ [c]) = digitValue c := by
        rw [digitsValue_concat]
        simp [digitsValue]
      exact ⟨0, by rw [hvalue, (toDigits_digitValue hc).2]; rfl⟩
    · rw [digitsValue_concat]
      exact (ih hs fun d hd ↦ h d (List.mem_append_left _ hd)).concat hc

/-- A number is read exactly from its numerals. -/
theorem readNat?_eq_some_iff {s : List Char} {n : Nat} : readNat? s = some n ↔ IsNumeral s n := by
  constructor
  · intro h
    obtain ⟨hne, hdigits⟩ := isDigit_of_readNat? h
    have hread : readNat? s = some (digitsValue s) := by
      rw [readNat?, if_pos]
      simpa [hne] using hdigits
    obtain rfl : n = digitsValue s := Option.some.inj (h.symm.trans hread)
    exact isNumeral_digitsValue hne hdigits
  · rintro ⟨zeros, rfl⟩
    have hall : (List.replicate zeros '0' ++ Nat.toDigits 10 n).all isDigit = true := by
      rw [List.all_eq_true]
      intro c hc
      rcases List.mem_append.mp hc with hc | hc
      · rw [List.eq_of_mem_replicate hc]
        rfl
      · exact isDigit_of_mem_toDigits hc
    have hvalue : digitsValue (Nat.toDigits 10 n) = n := Nat.ofDigitChars_ten_toDigits
    rw [readNat?, hall, if_pos, digitsValue_replicate_append, hvalue]
    simp [Nat.toDigits_ne_nil]

end ContainerBuild.Text
