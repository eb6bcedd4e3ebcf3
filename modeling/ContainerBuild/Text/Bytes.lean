/-!
# Byte positions

A position in a text counts the bytes of its UTF-8 form. A text can be cut where a character
begins or the text ends, and nowhere else: a character takes up to four bytes.
-/

namespace ContainerBuild.Text

/-- The number of bytes that characters take in UTF-8. -/
def byteLength : List Char → Nat
  | [] => 0
  | c :: s => c.utf8Size + byteLength s

/-- What stands before a byte position and what stands behind it. Inside of a character and
beyond the end there is no place to cut. -/
def cutAtByte? : Nat → List Char → Option (List Char × List Char)
  | 0, s => some ([], s)
  | _ + 1, [] => none
  | n + 1, c :: rest =>
    if c.utf8Size ≤ n + 1 then
      (cutAtByte? (n + 1 - c.utf8Size) rest).map fun (before, behind) ↦ (c :: before, behind)
    else none

/-- The byte position of the first character of a kind. -/
def findByte? (p : Char → Bool) : List Char → Option Nat
  | [] => none
  | c :: rest => if p c then some 0 else (findByte? p rest).map (c.utf8Size + ·)

variable {p : Char → Bool} {n : Nat} {s before behind : List Char}

/-- No characters take no bytes. -/
@[simp] theorem byteLength_nil : byteLength [] = 0 := rfl

/-- The first character comes before the others. -/
@[simp] theorem byteLength_cons (c : Char) (s : List Char) :
    byteLength (c :: s) = c.utf8Size + byteLength s := rfl

/-- Texts that are put together take their bytes together. -/
@[simp] theorem byteLength_append (a b : List Char) :
    byteLength (a ++ b) = byteLength a + byteLength b := by
  induction a with
  | nil => rw [List.nil_append, byteLength_nil, Nat.zero_add]
  | cons c a ih => rw [List.cons_append, byteLength_cons, ih, byteLength_cons, Nat.add_assoc]

/-- A text is cut exactly between two parts of it, at the number of bytes of the first. -/
theorem cutAtByte?_eq_some_iff :
    cutAtByte? n s = some (before, behind) ↔ s = before ++ behind ∧ byteLength before = n := by
  induction s generalizing n before with
  | nil =>
    cases n with
    | zero =>
      simp only [cutAtByte?, Option.some.injEq, Prod.mk.injEq, List.nil_eq_append_iff]
      constructor
      · rintro ⟨rfl, rfl⟩
        exact ⟨⟨rfl, rfl⟩, rfl⟩
      · rintro ⟨⟨rfl, rfl⟩, -⟩
        exact ⟨rfl, rfl⟩
    | succ n =>
      simp only [cutAtByte?, reduceCtorEq, false_iff]
      rintro ⟨h, hn⟩
      obtain ⟨rfl, -⟩ := List.append_eq_nil_iff.mp h.symm
      simp at hn
  | cons c rest ih =>
    have hpos := c.utf8Size_pos
    cases n with
    | zero =>
      cases before with
      | nil => simp [cutAtByte?]
      | cons d before =>
        have hpos := d.utf8Size_pos
        simp only [cutAtByte?, Option.some.injEq, Prod.mk.injEq, List.nil_eq, reduceCtorEq,
          false_and, byteLength_cons, false_iff, not_and]
        omega
    | succ n =>
      cases before with
      | nil =>
        simp only [cutAtByte?, byteLength_nil, Nat.zero_ne_add_one, and_false, iff_false]
        split <;> simp
      | cons d before =>
        simp only [cutAtByte?, List.cons_append, List.cons.injEq, byteLength_cons]
        split
        · next hle =>
          simp only [Option.map_eq_some_iff, Prod.exists, Prod.mk.injEq, List.cons.injEq]
          constructor
          · rintro ⟨b, e, hcut, ⟨rfl, rfl⟩, rfl⟩
            obtain ⟨rfl, hlength⟩ := ih.mp hcut
            exact ⟨⟨rfl, rfl⟩, by omega⟩
          · rintro ⟨⟨rfl, rfl⟩, hlength⟩
            exact ⟨before, behind, ih.mpr ⟨rfl, by omega⟩, ⟨rfl, rfl⟩, rfl⟩
        · next hlt =>
          simp only [reduceCtorEq, false_iff]
          rintro ⟨⟨rfl, -⟩, hlength⟩
          omega

/-- A cut behind the first part of a text. -/
theorem cutAtByte?_append (before behind : List Char) :
    cutAtByte? (byteLength before) (before ++ behind) = some (before, behind) :=
  cutAtByte?_eq_some_iff.mpr ⟨rfl, rfl⟩

/-- Where something was cut off, less is left. -/
theorem length_lt_of_cutAtByte? (hn : 0 < n) (h : cutAtByte? n s = some (before, behind)) :
    behind.length < s.length := by
  obtain ⟨rfl, hlength⟩ := cutAtByte?_eq_some_iff.mp h
  cases before with
  | nil =>
    rw [byteLength_nil] at hlength
    omega
  | cons c before =>
    rw [List.length_append, List.length_cons]
    omega

/-- The bytes of a string are those of its characters. -/
theorem utf8ByteSize_ofList (s : List Char) : (String.ofList s).utf8ByteSize = byteLength s := by
  induction s with
  | nil => rfl
  | cons c s ih =>
    rw [String.ofList_cons, String.utf8ByteSize_append, String.utf8ByteSize_singleton, ih,
      byteLength_cons]

/-- Nothing is found in a text without characters of a kind. -/
theorem findByte?_eq_none_iff : findByte? p s = none ↔ ∀ c ∈ s, p c = false := by
  induction s with
  | nil => simp [findByte?]
  | cons c rest ih =>
    rw [findByte?, List.forall_mem_cons]
    split
    · next hc => simp [hc]
    · next hc => simp [hc, ih]

/-- What is found is the position of the first character of a kind. -/
theorem findByte?_eq_some_iff :
    findByte? p s = some n ↔ ∃ before c behind, s = before ++ c :: behind ∧
      (∀ x ∈ before, p x = false) ∧ p c = true ∧ byteLength before = n := by
  induction s generalizing n with
  | nil => simp [findByte?]
  | cons c rest ih =>
    rw [findByte?]
    split
    · next hc =>
      constructor
      · intro h
        exact ⟨[], c, rest, rfl, by simp, hc, Option.some.inj h⟩
      · rintro ⟨before, d, behind, hs, hbefore, -, rfl⟩
        cases before with
        | nil => rfl
        | cons x before =>
          obtain ⟨rfl, -⟩ := List.cons.inj hs
          rw [hbefore c List.mem_cons_self] at hc
          cases hc
    · next hc =>
      rw [Option.map_eq_some_iff]
      constructor
      · rintro ⟨m, hm, rfl⟩
        obtain ⟨before, d, behind, rfl, hbefore, hd, rfl⟩ := ih.mp hm
        exact ⟨c :: before, d, behind, rfl,
          List.forall_mem_cons.mpr ⟨Bool.eq_false_iff.mpr hc, hbefore⟩, hd, rfl⟩
      · rintro ⟨before, d, behind, hs, hbefore, hd, rfl⟩
        cases before with
        | nil =>
          obtain ⟨rfl, -⟩ := List.cons.inj hs
          exact absurd hd hc
        | cons x before =>
          obtain ⟨rfl, hrest⟩ := List.cons.inj hs
          exact ⟨byteLength before, ih.mpr ⟨before, d, behind, hrest,
            (List.forall_mem_cons.mp hbefore).2, hd, rfl⟩, rfl⟩

end ContainerBuild.Text
