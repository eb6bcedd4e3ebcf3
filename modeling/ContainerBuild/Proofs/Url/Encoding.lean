import ContainerBuild.Url.Percent

/-!
# Encoded texts

An encoded text is made of characters that stay as they are and of escapes, and escapes stay as
they are in every part of a URL. An encoded text is therefore its own encoding.
-/

namespace ContainerBuild.Url

variable {kept : Kept} {s : List Char} {c : Char}

/-- The characters of the number of a byte. -/
def escapeChars : List Char :=
  ['%', '0', '1', '2', '3', '4', '5', '6', '7', '8', '9', 'A', 'B', 'C', 'D', 'E', 'F']

private theorem hexDigit_mem_escapeChars {n : Nat} (h : n < 16) : hexDigit n ∈ escapeChars := by
  have hall : ∀ n < 16, hexDigit n ∈ escapeChars := by decide
  exact hall n h

private theorem mem_escapeChars_of_mem_encodeByte {b : UInt8} (h : c ∈ encodeByte b) :
    c ∈ escapeChars := by
  have hb := b.toNat_lt
  simp only [encodeByte, List.mem_cons, List.not_mem_nil, or_false] at h
  rcases h with rfl | rfl | rfl
  · decide
  · exact hexDigit_mem_escapeChars (by omega)
  · exact hexDigit_mem_escapeChars (by omega)

/-- In an encoded text there are characters of the text that stay, and numbers of bytes. -/
theorem mem_encode (h : c ∈ encode kept s) : (c ∈ s ∧ kept c = true) ∨ c ∈ escapeChars := by
  obtain ⟨x, hx, hc⟩ := List.mem_flatMap.mp h
  rw [encodeChar] at hc
  split at hc
  · next hkept =>
    obtain rfl := List.mem_singleton.mp hc
    exact .inl ⟨hx, hkept⟩
  · obtain ⟨b, -, hb⟩ := List.mem_flatMap.mp hc
    exact .inr (mem_escapeChars_of_mem_encodeByte hb)

/-- The numbers of bytes stay as they are. -/
def Kept.KeepsEscapes (kept : Kept) : Prop := ∀ c ∈ escapeChars, kept c = true

instance : Decidable (Kept.KeepsEscapes kept) :=
  decidable_of_iff (escapeChars.all kept = true) List.all_eq_true

/-- The characters of an encoded text stay as they are. -/
theorem kept_of_mem_encode (h : Kept.KeepsEscapes kept) (hc : c ∈ encode kept s) :
    kept c = true := by
  rcases mem_encode hc with ⟨-, hkept⟩ | hmem
  · exact hkept
  · exact h c hmem

/-- A text whose characters stay as they are is its own encoding. -/
theorem encode_eq_self (h : ∀ c ∈ s, kept c = true) : encode kept s = s := by
  induction s with
  | nil => rfl
  | cons c s ih =>
    obtain ⟨hc, hs⟩ := List.forall_mem_cons.mp h
    have hchar : encodeChar kept c = [c] := if_pos hc
    rw [encode, List.flatMap_cons, hchar, List.singleton_append]
    congr 1
    exact ih hs

/-- An encoded text is its own encoding. -/
theorem encode_encode (h : Kept.KeepsEscapes kept) (s : List Char) :
    encode kept (encode kept s) = encode kept s :=
  encode_eq_self fun _ hc ↦ kept_of_mem_encode h hc

/-- Only nothing has an empty encoding. -/
theorem encode_eq_nil_iff : encode kept s = [] ↔ s = [] := by
  cases s with
  | nil => exact iff_of_true rfl rfl
  | cons c s =>
    refine iff_of_false ?_ (List.cons_ne_nil _ _)
    have hchar : encodeChar kept c ≠ [] := by
      rw [encodeChar]
      split
      · exact List.cons_ne_nil _ _
      · rw [ne_eq, List.flatMap_eq_nil_iff]
        intro h
        obtain ⟨b, bytes, hb⟩ := List.exists_cons_of_ne_nil (String.utf8EncodeChar_ne_nil (c := c))
        cases h b (hb ▸ List.mem_cons_self)
    rw [encode, List.flatMap_cons]
    exact List.append_ne_nil_of_left_ne_nil hchar _

end ContainerBuild.Url
