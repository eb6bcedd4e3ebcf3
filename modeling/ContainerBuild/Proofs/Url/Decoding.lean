import ContainerBuild.Proofs.Text.ByteOrder
import ContainerBuild.Proofs.Text.Words
import ContainerBuild.Proofs.Url.Encoding

/-!
# Encoded texts are decoded

Decoding undoes the escapes that encoding makes. In a part of a URL where escapes stay as they are,
it undoes those too that stood in the text already. So a text comes back from its encoding exactly
when it has nothing that looks like an escape.
-/

namespace ContainerBuild.Url

variable {kept : Kept} {s t : List Char} {c : Char}

/-- A character is a hexadecimal digit. -/
def IsHexDigit (c : Char) : Prop := (Text.hexValue? c).isSome = true

instance : DecidablePred IsHexDigit := fun c ↦
  inferInstanceAs (Decidable ((Text.hexValue? c).isSome = true))

/-- A text begins with two hexadecimal digits. -/
def OpensByte (s : List Char) : Prop :=
  ∃ a b, [a, b] <+: s ∧ IsHexDigit a ∧ IsHexDigit b

/-- Somewhere in a text stands a percent sign with two hexadecimal digits behind it. -/
def HasEscape (s : List Char) : Prop :=
  ∃ a b, ['%', a, b] <:+: s ∧ IsHexDigit a ∧ IsHexDigit b

/-! ## Escapes -/

private theorem toNat_lt_of_isHexDigit (h : IsHexDigit c) : c.toNat < 128 := by
  by_contra hge
  have hnot (d : Char) (hd : d.toNat < 128) : ¬ c ≤ d := fun hle ↦
    hge (Nat.lt_of_le_of_lt (UInt32.le_iff_toNat_le.mp (Char.le_def.mp hle)) hd)
  simp [IsHexDigit, Text.hexValue?, hnot '9' (by decide), hnot 'f' (by decide),
    hnot 'F' (by decide)] at h

/-- What begins with two digits. -/
theorem opensByte_cons_cons {a b : Char} :
    OpensByte (a :: b :: s) ↔ IsHexDigit a ∧ IsHexDigit b := by
  constructor
  · rintro ⟨x, y, ⟨tail, htail⟩, hx, hy⟩
    cases htail
    exact ⟨hx, hy⟩
  · rintro ⟨ha, hb⟩
    exact ⟨a, b, ⟨s, rfl⟩, ha, hb⟩

/-- One character is not two digits. -/
theorem not_opensByte_of_length (h : s.length < 2) : ¬ OpensByte s := by
  rintro ⟨a, b, hstarts, -⟩
  have hlength := hstarts.length_le
  simp only [List.length_cons, List.length_nil] at hlength
  omega

/-- An escape stands at the front of a text or behind its first character. -/
theorem hasEscape_cons : HasEscape (c :: s) ↔ c = '%' ∧ OpensByte s ∨ HasEscape s := by
  simp only [HasEscape, OpensByte, List.infix_cons_iff, List.cons_prefix_cons]
  constructor
  · rintro ⟨a, b, ⟨rfl, hstarts⟩ | hinside, hdigits⟩
    · exact .inl ⟨rfl, a, b, hstarts, hdigits⟩
    · exact .inr ⟨a, b, hinside, hdigits⟩
  · rintro (⟨rfl, a, b, hstarts, hdigits⟩ | ⟨a, b, hinside, hdigits⟩)
    · exact ⟨a, b, .inl ⟨rfl, hstarts⟩, hdigits⟩
    · exact ⟨a, b, .inr hinside, hdigits⟩

/-- Nothing has no escape. -/
theorem not_hasEscape_nil : ¬ HasEscape [] := by
  rintro ⟨a, b, hinside, -⟩
  cases List.infix_nil.mp hinside

/-- A text without a percent sign has no escape. -/
theorem not_hasEscape_of_not_mem (h : '%' ∉ s) : ¬ HasEscape s := by
  rintro ⟨a, b, hinside, -⟩
  exact h (hinside.subset List.mem_cons_self)

instance : DecidablePred OpensByte
  | [] => .isFalse (not_opensByte_of_length (by decide))
  | [_] => .isFalse (not_opensByte_of_length (by simp))
  | _ :: _ :: _ => decidable_of_iff _ opensByte_cons_cons.symm

instance HasEscape.decide : DecidablePred HasEscape
  | [] => .isFalse not_hasEscape_nil
  | _ :: s =>
    have := HasEscape.decide s
    decidable_of_iff _ hasEscape_cons.symm

/-! ## Decoding -/

/-- The digits of an escape are those of its byte. -/
theorem decodeBytes_escape {a b : Char} {x y : Nat} (ha : Text.hexValue? a = some x)
    (hb : Text.hexValue? b = some y) (s : List Char) :
    decodeBytes ('%' :: a :: b :: s) = UInt8.ofNat (16 * x + y) :: decodeBytes s := by
  rw [decodeBytes, ha, hb]

/-- A character that opens no escape is decoded as it is. -/
theorem decodeBytes_cons (h : ¬ (c = '%' ∧ OpensByte s)) :
    decodeBytes (c :: s) = String.utf8EncodeChar c ++ decodeBytes s := by
  by_cases hc : c = '%'
  · subst hc
    match s with
    | [] => rfl
    | [_] => rfl
    | a :: b :: s =>
      rw [decodeBytes]
      split
      · next ha hb =>
        have hdigits : IsHexDigit a ∧ IsHexDigit b := by simp [IsHexDigit, ha, hb]
        exact absurd ⟨rfl, opensByte_cons_cons.mpr hdigits⟩ h
      · rfl
  · exact decodeBytes.eq_3 _ _ fun _ _ _ he _ ↦ hc he

/-- A text is taken apart from its front, by escapes and by characters that open none. -/
theorem escape_induction {motive : List Char → Prop} (nil : motive [])
    (escape : ∀ a b s, IsHexDigit a → IsHexDigit b → motive s → motive ('%' :: a :: b :: s))
    (cons : ∀ c s, ¬ (c = '%' ∧ OpensByte s) → motive s → motive (c :: s)) (s : List Char) :
    motive s :=
  match s with
  | [] => nil
  | c :: s => by
    by_cases hopens : c = '%' ∧ OpensByte s
    · obtain ⟨rfl, a, b, ⟨rest, rfl⟩, ha, hb⟩ := hopens
      exact escape a b rest ha hb (escape_induction nil escape cons rest)
    · exact cons c s hopens (escape_induction nil escape cons s)

private theorem decodeBytes_eq_or_lt (s : List Char) :
    (¬ HasEscape s → decodeBytes s = s.flatMap String.utf8EncodeChar) ∧
      (HasEscape s → (decodeBytes s).length < (s.flatMap String.utf8EncodeChar).length) := by
  induction s using escape_induction with
  | nil => exact ⟨fun _ ↦ rfl, fun h ↦ absurd h not_hasEscape_nil⟩
  | escape a b s ha hb ih =>
    have hopens : HasEscape ('%' :: a :: b :: s) :=
      hasEscape_cons.mpr (.inl ⟨rfl, opensByte_cons_cons.mpr ⟨ha, hb⟩⟩)
    refine ⟨fun h ↦ absurd hopens h, fun _ ↦ ?_⟩
    obtain ⟨x, hx⟩ := Option.isSome_iff_exists.mp ha
    obtain ⟨y, hy⟩ := Option.isSome_iff_exists.mp hb
    have hle : (decodeBytes s).length ≤ (s.flatMap String.utf8EncodeChar).length := by
      by_cases h : HasEscape s
      · exact (ih.2 h).le
      · rw [ih.1 h]
    have hpos (c : Char) : 0 < (String.utf8EncodeChar c).length :=
      List.length_pos_iff.mpr String.utf8EncodeChar_ne_nil
    have := hpos '%'
    have := hpos a
    have := hpos b
    -- the three characters of the escape are at least three bytes, and they become one
    rw [decodeBytes_escape hx hy, List.flatMap_cons, List.flatMap_cons, List.flatMap_cons,
      List.length_cons, List.length_append, List.length_append, List.length_append]
    omega
  | cons c s hopens ih =>
    rw [decodeBytes_cons hopens, hasEscape_cons, List.flatMap_cons, List.length_append,
      List.length_append]
    refine ⟨fun h ↦ ?_, fun h ↦ ?_⟩
    · rw [ih.1 fun hs ↦ h (.inr hs)]
    · have := ih.2 (h.resolve_left hopens)
      omega

private theorem fromUTF8?_eq_some_iff {bytes : ByteArray} {text : String} :
    String.fromUTF8? bytes = some text ↔ text.toUTF8 = bytes := by
  constructor
  · intro h
    rw [String.fromUTF8?] at h
    split at h
    · cases h
      rfl
    · cases h
  · rintro rfl
    exact dif_pos text.isValidUTF8

/-- A text is decoded as one with the bytes that its characters and escapes give. -/
theorem decode?_eq_some_iff :
    decode? s = some t ↔ decodeBytes s = t.flatMap String.utf8EncodeChar := by
  have hbytes (text : String) :
      text.toUTF8 = (decodeBytes s).toByteArray ↔ Text.utf8 text = decodeBytes s := by
    rw [Text.utf8, ByteArray.ext_iff, List.data_toByteArray, ← Array.toList_inj]
  simp only [decode?, Option.map_eq_some_iff, fromUTF8?_eq_some_iff, hbytes, Text.utf8_eq]
  constructor
  · rintro ⟨text, hread, rfl⟩
    exact hread.symm
  · intro hread
    exact ⟨String.ofList t, by rw [String.toList_ofList, hread], String.toList_ofList⟩

/-- A text is decoded as itself exactly when it has no escape. -/
theorem decode?_eq_self_iff : decode? s = some s ↔ ¬ HasEscape s := by
  obtain ⟨hsame, hfewer⟩ := decodeBytes_eq_or_lt s
  rw [decode?_eq_some_iff]
  refine ⟨fun hbytes hescape ↦ ?_, hsame⟩
  have := hfewer hescape
  rw [hbytes] at this
  exact this.false

/-! ## Encoded texts -/

/-- Everything that escapes are written with stays as it is. -/
def Kept.KeepsWritten (kept : Kept) : Prop :=
  ∀ c, c = '%' ∨ IsHexDigit c → kept c = true

private theorem decodeBytes_flatMap_encodeByte (bytes : List UInt8) (s : List Char) :
    decodeBytes (bytes.flatMap encodeByte ++ s) = bytes ++ decodeBytes s := by
  have hvalue : ∀ n < 16, Text.hexValue? (hexDigit n) = some n := by decide
  induction bytes with
  | nil => rfl
  | cons b bytes ih =>
    have hb := b.toNat_lt
    have hread := decodeBytes_escape (hvalue (b.toNat / 16) (by omega))
      (hvalue (b.toNat % 16) (by omega)) (bytes.flatMap encodeByte ++ s)
    rw [Nat.div_add_mod, UInt8.ofNat_toNat, ih] at hread
    exact hread

private theorem exists_of_encode_eq_cons (h : encode kept s = c :: t) (hc : IsHexDigit c) :
    ∃ rest, s = c :: rest ∧ t = encode kept rest := by
  cases s with
  | nil => cases h
  | cons d rest =>
    rw [encode, List.flatMap_cons, encodeChar] at h
    split at h
    · cases h
      exact ⟨rest, rfl, rfl⟩
    · obtain ⟨b, bytes, hbytes⟩ :=
        List.exists_cons_of_ne_nil (String.utf8EncodeChar_ne_nil (c := d))
      rw [hbytes] at h
      cases h
      cases hc

private theorem opensByte_of_encode (h : OpensByte (encode kept s)) : OpensByte s := by
  obtain ⟨a, b, ⟨t, ht⟩, ha, hb⟩ := h
  obtain ⟨rest, rfl, hrest⟩ := exists_of_encode_eq_cons ht.symm ha
  obtain ⟨rest, rfl, -⟩ := exists_of_encode_eq_cons hrest.symm hb
  exact opensByte_cons_cons.mpr ⟨ha, hb⟩

/-- Where escapes stay as they are, a text is decoded as before when it is encoded. -/
theorem decodeBytes_encode (hkept : Kept.KeepsWritten kept) (s : List Char) :
    decodeBytes (encode kept s) = decodeBytes s := by
  have hcons (c : Char) (s : List Char) :
      encode kept (c :: s) = encodeChar kept c ++ encode kept s := List.flatMap_cons
  induction s using escape_induction with
  | nil => rfl
  | escape a b s ha hb ih =>
    obtain ⟨x, hx⟩ := Option.isSome_iff_exists.mp ha
    obtain ⟨y, hy⟩ := Option.isSome_iff_exists.mp hb
    rw [hcons, hcons, hcons, encodeChar, encodeChar, encodeChar, if_pos (hkept _ (.inl rfl)),
      if_pos (hkept _ (.inr ha)), if_pos (hkept _ (.inr hb))]
    simp only [List.singleton_append]
    rw [decodeBytes_escape hx hy, decodeBytes_escape hx hy, ih]
  | cons c s hopens ih =>
    -- encoding what stands behind a percent sign makes no escape of it, as digits stay digits
    rw [hcons, decodeBytes_cons hopens, ← ih, encodeChar]
    split
    · exact decodeBytes_cons fun h ↦ hopens ⟨h.1, opensByte_of_encode h.2⟩
    · exact decodeBytes_flatMap_encodeByte _ _

/-- Where escapes stay as they are, a text comes back from its encoding exactly when it has none. -/
theorem decode?_encode_eq_self_iff (hkept : Kept.KeepsWritten kept) :
    decode? (encode kept s) = some s ↔ ¬ HasEscape s := by
  rw [decode?, decodeBytes_encode hkept]
  exact decode?_eq_self_iff

/-- In a user name or a password escapes stay as they are. -/
theorem keepsWritten_keptUserinfo : Kept.KeepsWritten keptUserinfo := by
  rintro c (rfl | hc)
  · rfl
  · have hall := Text.forall_ascii (p := fun c ↦ IsHexDigit c → keptUserinfo c = true)
      (by decide +kernel)
    exact hall c (toNat_lt_of_isHexDigit hc) hc

end ContainerBuild.Url
