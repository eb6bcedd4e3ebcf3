import ContainerBuild.Proofs.Text.Numeral
import ContainerBuild.Proofs.Text.Words
import ContainerBuild.Version.Release
import Mathlib.Data.List.Forall2

/-!
# Releases and their texts

A release that can be read is one to three numbers that are not too large, and every such
release is read back from the way it is written. The ends of the shorthand ranges are such
releases as long as no number is the largest one.
-/

namespace ContainerBuild.Release

open Text (IsNumeral isDigit)

/-- The releases that can be read. -/
structure IsWritable (r : Release) : Prop where
  ne_nil : r ≠ []
  length_le : r.length ≤ 3
  le_limit : ∀ n ∈ r, n ≤ componentLimit

/-- No number of a release is the largest one. -/
def HasRoom (r : Release) : Prop := ∀ n ∈ r, n < componentLimit

/-- The characters of which readable releases are made. -/
def isReleaseChar (c : Char) : Bool := isDigit c || c = '.' || c = '+'

/-! ## Reading -/

/-- The components are read when each of them is. -/
theorem components_eq_ok_iff {parts : List (List Char)} {r : Release} :
    components parts = .ok r ↔ parts.map component? = r.map some := by
  induction parts generalizing r with
  | nil => cases r <;> simp [components]
  | cons part rest ih =>
    rw [components]
    cases hp : component? part with
    | none => cases r <;> simp [hp]
    | some n =>
      cases hr : components rest with
      | error e =>
        have hne : ∀ r : Release, rest.map component? ≠ r.map some := fun r h ↦ by
          rw [ih.mpr h] at hr
          cases hr
        cases r <;> simp [hp, Except.map, hne]
      | ok tail =>
        rw [ih] at hr
        cases r with
        | nil => simp [Except.map]
        | cons m r =>
          simp only [Except.map, Except.ok.injEq, List.cons.injEq, List.map_cons, hp,
            Option.some.injEq, hr]
          rw [List.map_inj_right fun _ _ h ↦ Option.some.inj h]

/-- A text is a release when its parts between dots are one to three components. -/
theorem parse_eq_ok_iff {s : List Char} {r : Release} :
    parse s = .ok r ↔
      s ≠ [] ∧ r.length ≤ 3 ∧ (s.splitOn '.').map component? = r.map some := by
  simp only [parse]
  by_cases hs : s = []
  · simp [hs]
  · rw [if_neg (by simpa using hs), ← components_eq_ok_iff]
    cases hc : components (s.splitOn '.') with
    | error e => simp
    | ok r' =>
      simp only [Except.ok.injEq]
      split
      · next hl =>
        refine iff_of_false (by simp) ?_
        rintro ⟨-, hr, rfl⟩
        omega
      · next hl =>
        simp only [Except.ok.injEq]
        constructor
        · rintro rfl
          exact ⟨hs, by omega, rfl⟩
        · rintro ⟨-, -, rfl⟩
          rfl

/-- A component is digits, after a plus sign if there is one, and it is not too large. -/
theorem of_component? {part : List Char} {n : Nat} (h : component? part = some n) :
    part ≠ [] ∧ (∀ c ∈ part, isReleaseChar c = true) ∧ n ≤ componentLimit := by
  simp only [component?, bind, Option.bind_eq_some_iff] at h
  obtain ⟨m, hm, hn⟩ := h
  split at hn
  · next hle =>
    obtain rfl : m = n := Option.some.inj hn
    obtain ⟨hne, hdigits⟩ := Text.isDigit_of_readNat? hm
    refine ⟨?_, ?_, hle⟩
    · rintro rfl
      exact hne rfl
    · intro c hc
      split at hdigits
      · next rest =>
        rcases List.mem_cons.mp hc with rfl | hc
        · rfl
        · simp [isReleaseChar, hdigits c hc]
      · simp [isReleaseChar, hdigits c hc]
  · cases hn

/-- A readable release is one to three numbers that are not too large. -/
theorem isWritable_of_parse {s : List Char} {r : Release} (h : parse s = .ok r) :
    r.IsWritable := by
  obtain ⟨-, hlength, hparts⟩ := parse_eq_ok_iff.mp h
  refine ⟨?_, hlength, ?_⟩
  · rintro rfl
    exact List.splitOn_ne_nil '.' s (List.map_eq_nil_iff.mp hparts)
  · intro n hn
    have hmem : some n ∈ (s.splitOn '.').map component? := by
      rw [hparts]
      exact List.mem_map_of_mem hn
    obtain ⟨part, -, hpart⟩ := List.mem_map.mp hmem
    exact (of_component? hpart).2.2

/-- A readable release is written in digits, dots and plus signs. -/
theorem isReleaseChar_of_parse {s : List Char} {r : Release} (h : parse s = .ok r) :
    ∀ c ∈ s, isReleaseChar c = true := by
  obtain ⟨-, -, hparts⟩ := parse_eq_ok_iff.mp h
  intro c hc
  have hs : ['.'].intercalate (s.splitOn '.') = s := List.intercalate_splitOn '.'
  rw [← hs] at hc
  rcases Text.mem_intercalate hc with hdot | ⟨part, hpart, hc⟩
  · rw [List.mem_singleton.mp hdot]
    rfl
  · have hmem : component? part ∈ r.map some := by
      rw [← hparts]
      exact List.mem_map_of_mem hpart
    obtain ⟨n, -, hn⟩ := List.mem_map.mp hmem
    exact (of_component? hn.symm).2.1 c hc

/-! ## Writing -/

private theorem component?_of_isNumeral {part : List Char} {n : Nat} (h : IsNumeral part n)
    (hn : n ≤ componentLimit) : component? part = some n := by
  have hread := Text.readNat?_eq_some_iff.mpr h
  simp only [component?]
  split
  · next rest =>
    cases (Text.isDigit_of_readNat? hread).2 '+' List.mem_cons_self
  · simp [hread, hn]

private theorem map_component?_of_isNumeral {numerals : List (List Char)} {r : Release}
    (h : List.Forall₂ IsNumeral numerals r) (hlimit : ∀ n ∈ r, n ≤ componentLimit) :
    numerals.map component? = r.map some := by
  induction h with
  | nil => rfl
  | cons hpart _ ih =>
    obtain ⟨hn, hrest⟩ := List.forall_mem_cons.mp hlimit
    rw [List.map_cons, List.map_cons, component?_of_isNumeral hpart hn, ih hrest]

/-- Numerals are made of digits. -/
theorem isDigit_of_mem_numerals {numerals : List (List Char)} {r : Release}
    (h : List.Forall₂ IsNumeral numerals r) :
    ∀ part ∈ numerals, part ≠ [] ∧ ∀ c ∈ part, isDigit c = true := by
  refine ((List.forall₂_and_left _ _).mp (h.imp fun part n hpart ↦ ⟨?_, hpart⟩)).1
  exact Text.isDigit_of_readNat? (Text.readNat?_eq_some_iff.mpr hpart)

/-- Numerals are told apart again at the dots between them. -/
theorem splitOn_intercalate {numerals : List (List Char)} {r : Release} (hne : r ≠ [])
    (h : List.Forall₂ IsNumeral numerals r) :
    (['.'].intercalate numerals).splitOn '.' = numerals := by
  apply List.splitOn_intercalate
  · intro part hpart hdot
    cases (isDigit_of_mem_numerals h part hpart).2 '.' hdot
  · rintro rfl
    exact hne (List.forall₂_nil_left_iff.mp h)

/-- A release is read from numerals between dots. -/
theorem parse_intercalate {numerals : List (List Char)} {r : Release} (hr : r.IsWritable)
    (h : List.Forall₂ IsNumeral numerals r) : parse (['.'].intercalate numerals) = .ok r := by
  have hsplit := splitOn_intercalate hr.ne_nil h
  rw [parse_eq_ok_iff, hsplit]
  refine ⟨fun hnil ↦ ?_, hr.length_le, map_component?_of_isNumeral h hr.le_limit⟩
  rw [hnil] at hsplit
  exact (isDigit_of_mem_numerals h [] (hsplit ▸ List.mem_cons_self)).1 rfl

/-- The text of a release, as characters. -/
theorem toList_render (r : Release) :
    r.render.toList = ['.'].intercalate (r.map (Nat.toDigits 10)) := by
  simp [render, Text.decimal, Function.comp_def]

/-- The digits of the numbers of a release are numerals of them. -/
theorem forall₂_isNumeral_toDigits (r : Release) :
    List.Forall₂ IsNumeral (r.map (Nat.toDigits 10)) r := by
  rw [List.forall₂_map_left_iff, List.forall₂_same]
  exact fun n _ ↦ ⟨0, rfl⟩

/-- A writable release is read back from its text. -/
theorem parse_render {r : Release} (h : r.IsWritable) : parse r.render.toList = .ok r := by
  rw [toList_render]
  exact parse_intercalate h (forall₂_isNumeral_toDigits r)

/-! ## The ends of the shorthand ranges -/

/-- A number with room is followed by one more. -/
theorem successor_eq {n : Nat} (h : n < componentLimit) : successor n = n + 1 :=
  Nat.mod_eq_of_lt (Nat.succ_lt_succ h)

/-- With room, the number at a place of a release is raised by one. -/
theorem modify_successor {r : Release} (hroom : r.HasRoom) (i : Nat) :
    r.modify i successor = r.modify i (· + 1) := by
  apply List.ext_getElem
  · rw [List.length_modify, List.length_modify]
  · intro j hj hj'
    rw [List.getElem_modify, List.getElem_modify]
    split
    · rw [List.length_modify] at hj
      exact successor_eq (hroom _ (List.getElem_mem hj))
    · rfl

private theorem le_limit_of_mem_modify {r : Release} (hroom : r.HasRoom) {i n : Nat}
    (hn : n ∈ r.modify i successor) : n ≤ componentLimit := by
  rw [modify_successor hroom] at hn
  obtain ⟨j, hj, rfl⟩ := List.getElem_of_mem hn
  rw [List.length_modify] at hj
  have hlt := hroom r[j] (List.getElem_mem hj)
  rw [List.getElem_modify]
  split
  · omega
  · omega

/-- The end of a caret range can be written when there is room. -/
theorem isWritable_caretUpper {r : Release} (h : r.IsWritable) (hroom : r.HasRoom) :
    r.caretUpper.IsWritable := by
  have hlength := h.length_le
  have hpos : 0 < r.length := List.length_pos_iff.mpr h.ne_nil
  simp only [caretUpper]
  have hupper : ∀ n ∈ (r.take (caretIndex r + 1)).modify (caretIndex r) successor,
      n ≤ componentLimit :=
    fun n hn ↦ le_limit_of_mem_modify (fun m hm ↦ hroom m (List.mem_of_mem_take hm)) hn
  have hlen : ((r.take (caretIndex r + 1)).modify (caretIndex r) successor).length =
      min (caretIndex r + 1) r.length := by
    rw [List.length_modify, List.length_take]
  generalize (r.take (caretIndex r + 1)).modify (caretIndex r) successor = upper at hupper hlen
  split
  · refine ⟨by simp, ?_, ?_⟩
    · rw [List.length_append, List.length_singleton]
      omega
    · intro n hn
      rcases List.mem_append.mp hn with hn | hn
      · exact hupper n hn
      · rw [List.mem_singleton.mp hn]
        exact Nat.zero_le _
  · refine ⟨?_, by omega, hupper⟩
    rintro rfl
    rw [List.length_nil] at hlen
    omega

/-- The end of a tilde range can be written when there is room. -/
theorem isWritable_tildeUpper {r : Release} (h : r.IsWritable) (hroom : r.HasRoom) :
    r.tildeUpper.IsWritable := by
  match r, h.ne_nil with
  | [major], _ =>
    have hmajor := hroom major List.mem_cons_self
    refine ⟨by simp [tildeUpper], by simp [tildeUpper], ?_⟩
    simp only [tildeUpper, successor_eq hmajor, List.forall_mem_cons]
    exact ⟨by omega, by decide, by simp⟩
  | major :: minor :: rest, _ =>
    have hmajor := hroom major List.mem_cons_self
    have hminor := hroom minor (by simp)
    refine ⟨by simp [tildeUpper], by simp [tildeUpper], ?_⟩
    simp only [tildeUpper, successor_eq hminor, List.forall_mem_cons]
    exact ⟨by omega, by omega, by simp⟩

end ContainerBuild.Release
