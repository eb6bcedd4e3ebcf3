import ContainerBuild.Text.Blank
import ContainerBuild.Text.Decimal

/-!
# Decimal digits

What a number is written in, and read from: the ten digits.
-/

namespace ContainerBuild.Text

/-- The digits are those of the core library. -/
theorem isDigit_eq (c : Char) : isDigit c = c.isDigit := by
  simp only [isDigit, Char.isDigit, Char.le_def, ge_iff_le]

/-- A letter or a digit is one of three ranges of characters. -/
theorem isAlphanum_iff {c : Char} : c.isAlphanum = true ↔
    (('A' ≤ c ∧ c ≤ 'Z') ∨ 'a' ≤ c ∧ c ≤ 'z') ∨ isDigit c = true := by
  change ((decide ('A' ≤ c ∧ c ≤ 'Z') || (decide ('a' ≤ c) && decide (c ≤ 'z'))) ||
    c.isDigit) = true ↔ _
  rw [isDigit_eq]
  simp only [Bool.or_eq_true, Bool.and_eq_true, decide_eq_true_eq]

/-- What holds of every digit of a base holds of the characters of numbers in that base. -/
theorem forall_mem_toDigits {p : Char → Prop} {base : Nat} (hbase : 1 < base)
    (h : ∀ d < base, p (Nat.digitChar d)) (n : Nat) : ∀ c ∈ Nat.toDigits base n, p c := by
  induction n using Nat.strongRecOn with
  | _ n ih =>
    rw [Nat.toDigits_eq_if hbase]
    split
    · next hn => exact List.forall_mem_singleton.mpr (h n hn)
    · have hless : n / base < n := Nat.div_lt_self (by omega) hbase
      have hmod : n % base < base := Nat.mod_lt _ (by omega)
      exact List.forall_mem_append.mpr
        ⟨ih _ hless, List.forall_mem_singleton.mpr (h _ hmod)⟩

/-- The characters of a number are digits. -/
theorem isDigit_of_mem_toDigits {n : Nat} {c : Char} (h : c ∈ Nat.toDigits 10 n) :
    isDigit c = true := by
  rw [isDigit_eq]
  exact Nat.isDigit_of_mem_toDigits (by decide) (by decide) h

/-- What can be read as a number is made of digits. -/
theorem isDigit_of_readNat? {s : List Char} {n : Nat} (h : readNat? s = some n) :
    s ≠ [] ∧ ∀ c ∈ s, isDigit c = true := by
  simp only [readNat?] at h
  split at h
  · next hs => simpa using hs
  · cases h

/-- The place of a digit among the characters. -/
theorem toNat_of_isDigit {c : Char} (h : isDigit c = true) : 48 ≤ c.toNat ∧ c.toNat ≤ 57 := by
  simp only [isDigit, Bool.and_eq_true, decide_eq_true_eq, Char.le_def,
    UInt32.le_iff_toNat_le] at h
  exact h

/-- A digit is no blank. -/
theorem isBlank_of_isDigit {c : Char} (h : isDigit c = true) : isBlank c = false := by
  obtain ⟨hlow, hhigh⟩ := toNat_of_isDigit h
  exact isBlank_of_visible (by omega) (by omega)

end ContainerBuild.Text
