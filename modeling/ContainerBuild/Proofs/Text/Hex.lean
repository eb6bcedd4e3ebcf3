import ContainerBuild.Proofs.Text.ByteOrder
import ContainerBuild.Text.CodePoints
import ContainerBuild.Text.Hex

/-!
# Bytes and their digits

A byte takes two hexadecimal digits, which give it back, so different bytes are written
differently. A text is given back by its bytes.
-/

namespace ContainerBuild.Text

/-- What can be checked for the numbers of bytes holds for all bytes. -/
theorem forall_byte {p : UInt8 → Prop} (h : ∀ n < 256, p (UInt8.ofNat n)) (b : UInt8) : p b := by
  have hb := h b.toNat b.toNat_lt
  rwa [UInt8.ofNat_toNat] at hb

private theorem length_hexByte : ∀ b : UInt8, (hexByte b).length = 2 :=
  forall_byte (by decide +kernel)

private theorem readHex_hexByte : ∀ b : UInt8, readHex (hexByte b) = b.toNat :=
  forall_byte (by decide +kernel)

/-- Different bytes are written differently. -/
theorem hexBytes_injective : Function.Injective hexBytes := by
  have hne (x : UInt8) (rest : List Char) : hexByte x ++ rest ≠ [] := by
    refine List.append_ne_nil_of_left_ne_nil (List.ne_nil_of_length_pos ?_) rest
    rw [length_hexByte]
    decide
  intro a b h
  have hdigits : a.flatMap hexByte = b.flatMap hexByte := String.ofList_injective h
  clear h
  induction a generalizing b with
  | nil =>
    cases b with
    | nil => rfl
    | cons y b => exact absurd hdigits.symm (hne y _)
  | cons x a ih =>
    cases b with
    | nil => exact absurd hdigits (hne x _)
    | cons y b =>
      rw [List.flatMap_cons, List.flatMap_cons] at hdigits
      obtain ⟨hfirst, hrest⟩ :=
        List.append_inj hdigits ((length_hexByte x).trans (length_hexByte y).symm)
      have hxy : x.toNat = y.toNat := by
        rw [← readHex_hexByte, hfirst, readHex_hexByte]
      rw [UInt8.toNat_inj.mp hxy, ih hrest]

private theorem toList_loop_eq (bytes : ByteArray) (place : Nat) (front : List UInt8) :
    ByteArray.toList.loop bytes place front =
      front.reverse ++ bytes.data.toList.drop place := by
  induction place, front using ByteArray.toList.loop.induct bytes with
  | case1 place front hlt ih =>
    have hplace : place < bytes.data.toList.length := hlt
    have hbyte : bytes.get! place = bytes.data.toList[place] := by
      rw [ByteArray.get!, Array.getElem_toList]
      exact getElem!_pos bytes.data place hlt
    rw [ByteArray.toList.loop, if_pos hlt, ih, List.drop_eq_getElem_cons hplace, hbyte,
      List.reverse_cons, List.append_assoc, List.singleton_append]
  | case2 place front hge =>
    have hplace : bytes.data.toList.length ≤ place := Nat.le_of_not_lt hge
    rw [ByteArray.toList.loop, if_neg hge, List.drop_eq_nil_of_le hplace, List.append_nil]

/-- The list of the bytes of a text. -/
theorem toList_toUTF8 (s : String) : s.toUTF8.toList = utf8 s := by
  rw [ByteArray.toList, toList_loop_eq]
  rfl

/-- A text is given back by its bytes. -/
theorem utf8_injective : Function.Injective utf8 := by
  intro s t h
  exact String.toByteArray_inj.mp (ByteArray.ext (Array.toList_inj.mp h))

end ContainerBuild.Text
