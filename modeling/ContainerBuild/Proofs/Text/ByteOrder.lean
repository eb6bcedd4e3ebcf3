import Mathlib.Data.String.Basic
import Mathlib.Tactic.SplitIfs

/-!
# The order of texts by their bytes

Texts are ordered by their characters from left to right. In UTF-8 a smaller character has the
smaller code: a shorter code begins with a smaller byte, and codes of one length hold the digits of
the character from the most significant one. So the order of texts is that of their bytes.
-/

namespace ContainerBuild.Text

/-- The bytes of a text. -/
def utf8 (s : String) : List UInt8 := s.toUTF8.data.toList

private def KeepsOrder (code : Nat → List UInt8) (limit : Nat) : Prop :=
  ∀ v w, v < w → w < limit → ∀ a b, code v ++ a < code w ++ b

private def leading (m fixed n : Nat) : List UInt8 := [UInt8.ofNat (n % m + fixed)]

private def extend (code : Nat → List UInt8) (n : Nat) : List UInt8 :=
  code (n / 64) ++ [UInt8.ofNat (n % 64 + 128)]

private theorem cons_append_lt {x y : UInt8} (h : x.toNat < y.toNat) (s t a b : List UInt8) :
    x :: s ++ a < y :: t ++ b :=
  List.cons_lt_cons_iff.mpr (.inl (UInt8.lt_iff_toNat_lt.mpr h))

private theorem toNat_digit {m fixed : Nat} (hm : 0 < m) (h : m + fixed ≤ 256) (n : Nat) :
    (UInt8.ofNat (n % m + fixed)).toNat = n % m + fixed := by
  have hn := Nat.mod_lt n hm
  rw [UInt8.toNat_ofNat', Nat.mod_eq_of_lt (by omega)]

private theorem keepsOrder_leading {m fixed : Nat} (h : m + fixed ≤ 256) :
    KeepsOrder (leading m fixed) m := by
  intro v w hvw hw a b
  refine cons_append_lt ?_ [] [] a b
  rw [toNat_digit (by omega) h, toNat_digit (by omega) h, Nat.mod_eq_of_lt hw,
    Nat.mod_eq_of_lt (by omega)]
  omega

private theorem KeepsOrder.extend {code : Nat → List UInt8} {limit : Nat}
    (h : KeepsOrder code limit) : KeepsOrder (extend code) (64 * limit) := by
  intro v w hvw hw a b
  rw [Text.extend, Text.extend, List.append_assoc, List.append_assoc]
  by_cases heq : v / 64 = w / 64
  · rw [heq]
    refine List.append_left_lt (cons_append_lt ?_ [] [] a b)
    rw [toNat_digit (by omega) (by omega), toNat_digit (by omega) (by omega)]
    omega
  · exact h _ _ (by omega) (by omega) _ _

private theorem utf8EncodeChar_append_lt {c d : Char} (h : c < d) (a b : List UInt8) :
    String.utf8EncodeChar c ++ a < String.utf8EncodeChar d ++ b := by
  have hvw : c.val.toNat < d.val.toNat := h
  have hw : d.val.toNat < 0x110000 := by
    rcases d.valid with h | h
    · have : d.val.toNat < 0xd800 := h
      omega
    · exact h.2
  simp only [String.utf8EncodeChar]
  generalize c.val.toNat = v at *
  generalize d.val.toNat = w at *
  have hthree (n : Nat) : n / 4096 = n / 64 / 64 := (Nat.div_div_eq_div_mul n 64 64).symm
  have hfour (n : Nat) : n / 262144 = n / 64 / 64 / 64 := by
    rw [← hthree, Nat.div_div_eq_div_mul]
  rw [hthree v, hthree w, hfour v, hfour w]
  -- Codes of one length are compared by digits, a longer code begins with a larger byte.
  by_cases hv1 : v ≤ 127
  · rw [if_pos hv1]
    split_ifs <;> exact cons_append_lt (by simp only [UInt8.toNat_ofNat']; omega) ..
  rw [if_neg hv1, if_neg (by omega : ¬ w ≤ 127)]
  by_cases hv2 : v ≤ 2047
  · by_cases hw2 : w ≤ 2047
    · rw [if_pos hv2, if_pos hw2]
      exact (keepsOrder_leading (by omega)).extend v w hvw (by omega) a b
    · rw [if_pos hv2, if_neg hw2]
      split_ifs <;> exact cons_append_lt (by simp only [UInt8.toNat_ofNat']; omega) ..
  rw [if_neg hv2, if_neg (by omega : ¬ w ≤ 2047)]
  by_cases hv3 : v ≤ 65535
  · by_cases hw3 : w ≤ 65535
    · rw [if_pos hv3, if_pos hw3]
      exact (keepsOrder_leading (by omega)).extend.extend v w hvw (by omega) a b
    · rw [if_pos hv3, if_neg hw3]
      exact cons_append_lt (by simp only [UInt8.toNat_ofNat']; omega) ..
  rw [if_neg hv3, if_neg (by omega : ¬ w ≤ 65535)]
  exact (keepsOrder_leading (by omega)).extend.extend.extend v w hvw (by omega) a b

/-- The bytes of a text are the codes of its characters. -/
theorem utf8_eq (s : String) : utf8 s = s.toList.flatMap String.utf8EncodeChar := by
  rw [utf8, String.toUTF8, ← String.utf8Encode_toList, List.utf8Encode, List.data_toByteArray]

private theorem utf8_lt_of_lt {s t : String} (h : s < t) : utf8 s < utf8 t := by
  rw [utf8_eq, utf8_eq]
  rw [String.lt_iff_toList_lt] at h
  generalize s.toList = s at *
  generalize t.toList = t at *
  induction s generalizing t with
  | nil =>
    cases t with
    | nil => exact absurd h (List.not_lt_nil [])
    | cons d t =>
      obtain ⟨byte, bytes, hcode⟩ :=
        List.exists_cons_of_ne_nil (String.utf8EncodeChar_ne_nil (c := d))
      rw [List.flatMap_nil, List.flatMap_cons, hcode]
      exact List.nil_lt_cons ..
  | cons c s ih =>
    cases t with
    | nil => exact absurd h (List.not_lt_nil _)
    | cons d t =>
      rw [List.flatMap_cons, List.flatMap_cons]
      rcases List.cons_lt_cons_iff.mp h with hlt | ⟨rfl, hlt⟩
      · exact utf8EncodeChar_append_lt hlt _ _
      · exact List.append_left_lt (ih t hlt)

/-- The order of texts is that of their bytes. -/
theorem utf8_le_iff {s t : String} : utf8 s ≤ utf8 t ↔ s ≤ t := by
  rw [← List.not_lt, ← String.not_lt, not_iff_not]
  refine ⟨fun h ↦ ?_, utf8_lt_of_lt⟩
  by_contra hts
  have hst : s ≤ t := String.not_lt.mp hts
  by_cases heq : s = t
  · rw [heq] at h
    exact List.lt_irrefl _ h
  · exact List.lt_asymm (utf8_lt_of_lt (lt_of_le_of_ne hst heq)) h

end ContainerBuild.Text
