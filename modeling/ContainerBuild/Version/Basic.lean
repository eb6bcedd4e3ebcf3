import ContainerBuild.Text.Decimal

/-!
# Interpreter versions

A version has three numbers and is ordered by them from left to right.
-/

namespace ContainerBuild

/-- An interpreter version. -/
structure Version where
  major : Nat
  minor : Nat
  patch : Nat
deriving DecidableEq, Repr, Inhabited

namespace Version

/-- The earlier version has the smaller number at the first difference. -/
instance : LT Version where
  lt a b := a.major < b.major ∨ (a.major = b.major ∧
    (a.minor < b.minor ∨ (a.minor = b.minor ∧ a.patch < b.patch)))

/-- One version is at most another when it is earlier or the same. -/
instance : LE Version where
  le a b := a < b ∨ a = b

/-- The order on versions, spelled out. -/
theorem lt_def {a b : Version} : a < b ↔ a.major < b.major ∨ (a.major = b.major ∧
    (a.minor < b.minor ∨ (a.minor = b.minor ∧ a.patch < b.patch))) := Iff.rfl

/-- At most means earlier or equal. -/
theorem le_def {a b : Version} : a ≤ b ↔ a < b ∨ a = b := Iff.rfl

/-- At most, spelled out. -/
theorem le_iff {a b : Version} : a ≤ b ↔ a.major < b.major ∨ (a.major = b.major ∧
    (a.minor < b.minor ∨ (a.minor = b.minor ∧ a.patch ≤ b.patch))) := by
  cases a
  cases b
  rw [le_def, lt_def, mk.injEq]
  dsimp only
  omega

/-- Of two versions the one is earlier, or the other is at most it. -/
protected theorem not_lt {a b : Version} : ¬a < b ↔ b ≤ a := by
  rw [lt_def, le_iff]
  omega

/-- A version is at most itself. -/
protected theorem le_refl (a : Version) : a ≤ a := .inr rfl

/-- What is at most something is at most all that this is at most. -/
protected theorem le_trans {a b c : Version} (h : a ≤ b) (h' : b ≤ c) : a ≤ c := by
  rw [le_iff] at *
  omega

instance (a b : Version) : Decidable (a < b) := decidable_of_iff _ lt_def.symm

instance (a b : Version) : Decidable (a ≤ b) := decidable_of_iff _ le_def.symm

/-- The three numbers, from the most significant one. -/
def toList (v : Version) : List Nat := [v.major, v.minor, v.patch]

/-- The three numbers, joined by dots. -/
def render (v : Version) : String := ".".intercalate (v.toList.map Text.decimal)

end Version

end ContainerBuild
