import ContainerBuild.Proofs.Text.Numeral
import ContainerBuild.Proofs.Text.Words
import ContainerBuild.Url.Address
import Mathlib.Algebra.Group.Nat.Defs

/-!
# Written addresses are read back

An address of version 4 that has been read is a number of 32 bits, and an address of version 6 is
eight pieces of 16 bits. All such addresses are read back from their written form.
-/

namespace ContainerBuild.Url

open Text (isDigit)

/-- Items are all read when each of them is. -/
theorem mapM_eq_some_iff {α β : Type} {f : α → Option β} {xs : List α} {ys : List β} :
    xs.mapM f = some ys ↔ xs.map f = ys.map some := by
  induction xs generalizing ys with
  | nil => cases ys <;> simp
  | cons x xs ih =>
    rw [List.mapM_cons]
    cases ys with
    | nil => cases f x <;> cases xs.mapM f <;> simp
    | cons y ys =>
      rw [List.map_cons, List.map_cons, List.cons.injEq, ← ih]
      cases f x <;> cases xs.mapM f <;> simp

/-! ## Version 4 -/

private theorem ipv4Sum_lt {before : List Nat} {last : Nat} (hlength : before.length ≤ 3)
    (hbefore : ∀ n ∈ before, n ≤ 255) (hlast : last < 256 ^ (4 - before.length)) :
    ipv4Sum 3 last before < 256 ^ 4 := by
  match before, hlength with
  | [], _ => simpa [ipv4Sum] using hlast
  | [a], _ =>
    simp [ipv4Sum] at hbefore hlast ⊢
    omega
  | [a, b], _ =>
    simp [ipv4Sum] at hbefore hlast ⊢
    omega
  | [a, b, c], _ =>
    simp [ipv4Sum] at hbefore hlast ⊢
    omega

/-- An address of version 4 that is read is a number of 32 bits. -/
theorem Ipv4.value_lt {s : List Char} {a : Ipv4} (h : Ipv4.parse? s = some a) :
    a.value < 256 ^ 4 := by
  simp only [Ipv4.parse?, Option.ite_none_left_eq_some, bind, Option.bind_eq_some_iff] at h
  obtain ⟨hparts, numbers, hnumbers, last, hlast, h⟩ := h
  split at h
  · next hrange =>
    obtain rfl := Option.some.inj h
    have hlength : numbers.length ≤ 4 := by
      have := congrArg List.length (mapM_eq_some_iff.mp hnumbers)
      rw [List.length_map, List.length_map] at this
      omega
    simp only [Bool.and_eq_true, List.all_eq_true, decide_eq_true_eq] at hrange
    apply ipv4Sum_lt
    · rw [List.length_dropLast]
      omega
    · exact hrange.1
    · exact hrange.2
  · cases h

private theorem dottedParts_intercalate {parts : List (List Char)} (hne : parts ≠ [])
    (h : ∀ part ∈ parts, part ≠ [] ∧ '.' ∉ part) :
    dottedParts (['.'].intercalate parts) = parts := by
  have hsplit : (['.'].intercalate parts).splitOn '.' = parts :=
    List.splitOn_intercalate '.' (fun part hp ↦ (h part hp).2) hne
  simp only [dottedParts, hsplit]
  rw [if_neg]
  simp only [Bool.and_eq_true, decide_eq_true_eq, not_and]
  intro _ hlast
  exact (h [] (List.mem_of_getLast? hlast)).1 rfl

/-- The octets of an address of version 4. -/
def Ipv4.octets (a : Ipv4) : List Nat :=
  [Nat.pow 256 3, Nat.pow 256 2, 256, 1].map fun place ↦ a.value / place % 256

/-- The written form of an address of version 4, as characters. -/
theorem Ipv4.toList_render (a : Ipv4) :
    a.render.toList = ['.'].intercalate (a.octets.map (Nat.toDigits 10)) := by
  simp [Ipv4.render, Ipv4.octets, Text.decimal]

private theorem Ipv4.lt_of_mem_octets {a : Ipv4} {n : Nat} (h : n ∈ a.octets) : n < 256 := by
  obtain ⟨place, -, rfl⟩ := List.mem_map.mp h
  exact Nat.mod_lt _ (by decide)

private theorem ipv4Number?_toDigits {n : Nat} (h : n < 256) :
    ipv4Number? (Nat.toDigits 10 n) = some n := by
  have hall : ∀ n < 256, ipv4Number? (Nat.toDigits 10 n) = some n := by decide +kernel
  exact hall n h

/-- The parts of a written address of version 4 are the digits of its octets. -/
theorem Ipv4.dottedParts_render (a : Ipv4) :
    dottedParts a.render.toList = a.octets.map (Nat.toDigits 10) := by
  rw [Ipv4.toList_render]
  apply dottedParts_intercalate (by simp [Ipv4.octets])
  rw [List.forall_mem_map]
  intro n _
  refine ⟨Nat.toDigits_ne_nil, fun hdot ↦ ?_⟩
  cases Text.isDigit_of_mem_toDigits hdot

/-- A number of 32 bits is read back from the written form of the address. -/
theorem Ipv4.parse?_render {a : Ipv4} (h : a.value < 256 ^ 4) :
    Ipv4.parse? a.render.toList = some a := by
  have hnumbers : (a.octets.map (Nat.toDigits 10)).mapM ipv4Number? = some a.octets := by
    rw [mapM_eq_some_iff, List.map_map]
    apply List.map_congr_left
    exact fun n hn ↦ ipv4Number?_toDigits (Ipv4.lt_of_mem_octets hn)
  have hsum : ipv4Sum 3 (a.value / 1 % 256)
      [a.value / Nat.pow 256 3 % 256, a.value / Nat.pow 256 2 % 256, a.value / 256 % 256] =
        a.value := by
    have hpow : Nat.pow 256 3 = 16777216 ∧ Nat.pow 256 2 = 65536 ∧ Nat.pow 256 1 = 256 :=
      ⟨rfl, rfl, rfl⟩
    simp only [ipv4Sum, Nat.reduceSub, hpow]
    omega
  have hlast : a.octets.getLast? = some (a.value / 1 % 256) := rfl
  have hbefore : a.octets.dropLast =
      [a.value / Nat.pow 256 3 % 256, a.value / Nat.pow 256 2 % 256, a.value / 256 % 256] := rfl
  have hbyte (n : Nat) : n % 256 ≤ 255 := by omega
  simp only [Ipv4.parse?, Ipv4.dottedParts_render, hnumbers, hlast, hbefore, hsum, bind,
    Option.bind_some]
  rw [if_neg (by simp [Ipv4.octets])]
  apply if_pos
  simp [hbyte, Nat.mod_lt]

/-! ## Version 6 -/

/-- The pieces of an address of version 6: eight numbers of 16 bits. -/
structure Ipv6.IsWhole (a : Ipv6) : Prop where
  length : a.pieces.length = 8
  lt : ∀ n ∈ a.pieces, n < 16 ^ 4

private theorem lt_of_hexValue? {c : Char} {d : Nat} (h : Text.hexValue? c = some d) : d < 16 := by
  simp only [Text.hexValue?, Bool.and_eq_true, decide_eq_true_eq, Char.le_def,
    UInt32.le_iff_toNat_le] at h
  split at h
  · next hc =>
    have hhigh : c.toNat ≤ 57 := hc.2
    have hd : c.toNat - 48 = d := Option.some.inj h
    omega
  · split at h
    · next hc =>
      have hhigh : c.toNat ≤ 102 := hc.2
      have hd : c.toNat - 97 + 10 = d := Option.some.inj h
      omega
    · split at h
      · next hc =>
        have hhigh : c.toNat ≤ 70 := hc.2
        have hd : c.toNat - 65 + 10 = d := Option.some.inj h
        omega
      · cases h

/-- Reads the digits of a piece behind a number. -/
def hexFold (n : Option Nat) (s : List Char) : Option Nat :=
  s.foldl (fun n c ↦ do pure (16 * (← n) + (← Text.hexValue? c))) n

/-- A piece is one to four digits that are read one after the other. -/
theorem ipv6Piece?_eq_some_iff {s : List Char} {n : Nat} :
    ipv6Piece? s = some n ↔ s ≠ [] ∧ s.length ≤ 4 ∧ hexFold (some 0) s = some n := by
  rw [ipv6Piece?, ← hexFold]
  split
  · next h =>
    refine iff_of_false (by simp) ?_
    rintro ⟨hne, hlength, -⟩
    simp [hne] at h
    omega
  · next h =>
    simp at h
    simp [h]

private theorem hexFold_none (s : List Char) : hexFold none s = none := by
  induction s with
  | nil => rfl
  | cons c s ih => exact ih

private theorem lt_of_hexFold {s : List Char} {m n : Nat} (h : hexFold (some m) s = some n) :
    n < (m + 1) * 16 ^ s.length := by
  induction s generalizing m with
  | nil =>
    obtain rfl := Option.some.inj h
    simp
  | cons c s ih =>
    cases hc : Text.hexValue? c with
    | none =>
      have hnone : hexFold (some m) (c :: s) = hexFold none s := by
        simp [hexFold, hc]
      rw [hnone, hexFold_none] at h
      cases h
    | some d =>
      have hsome : hexFold (some m) (c :: s) = hexFold (some (16 * m + d)) s := by
        simp [hexFold, hc]
      rw [hsome] at h
      have hd := lt_of_hexValue? hc
      calc n < (16 * m + d + 1) * 16 ^ s.length := ih h
        _ ≤ ((m + 1) * 16) * 16 ^ s.length := Nat.mul_le_mul_right _ (by omega)
        _ = (m + 1) * 16 ^ (c :: s).length := by
          rw [List.length_cons, Nat.pow_succ, Nat.mul_assoc, Nat.mul_comm 16]

/-- A piece is a number of 16 bits. -/
theorem lt_of_ipv6Piece? {s : List Char} {n : Nat} (h : ipv6Piece? s = some n) : n < 16 ^ 4 := by
  obtain ⟨-, hlength, hfold⟩ := ipv6Piece?_eq_some_iff.mp h
  calc n < (0 + 1) * 16 ^ s.length := lt_of_hexFold hfold
    _ = 16 ^ s.length := by rw [Nat.zero_add, Nat.one_mul]
    _ ≤ 16 ^ 4 := Nat.pow_le_pow_right (by decide) hlength

private theorem hexFold_toDigits (n : Nat) : hexFold (some 0) (Nat.toDigits 16 n) = some n := by
  have hdigit : ∀ d < 16, Text.hexValue? (Nat.digitChar d) = some d := by decide
  induction n using Nat.strongRecOn with
  | _ n ih =>
    rw [Nat.toDigits_eq_if (by decide)]
    split
    · next hn => simp [hexFold, hdigit n hn]
    · next hn =>
      have hless : n / 16 < n := Nat.div_lt_self (by omega) (by decide)
      have hread := ih _ hless
      rw [hexFold] at hread ⊢
      rw [List.foldl_append, hread]
      simp [hdigit (n % 16) (Nat.mod_lt _ (by decide))]
      omega

private theorem ipv6Piece?_toDigits {n : Nat} (h : n < 16 ^ 4) :
    ipv6Piece? (Nat.toDigits 16 n) = some n := by
  rw [ipv6Piece?_eq_some_iff]
  refine ⟨Nat.toDigits_ne_nil, ?_, hexFold_toDigits n⟩
  exact (Nat.length_toDigits_le_iff (by decide) (by decide)).mpr h

private theorem le_of_octet? {s : List Char} {n : Nat} (h : octet? s = some n) : n ≤ 255 := by
  simp only [octet?, bind, Option.bind_eq_some_iff, Option.ite_none_right_eq_some,
    Bool.and_eq_true, decide_eq_true_eq] at h
  obtain ⟨m, -, ⟨hm, -⟩, he⟩ := h
  obtain rfl := Option.some.inj he
  exact hm

private theorem lt_of_ipv6Tail? {s : List Char} {pieces : List Nat}
    (h : ipv6Tail? s = some pieces) :
    ∀ n ∈ pieces, n < 16 ^ 4 := by
  rw [ipv6Tail?] at h
  split at h
  · split at h
    · next a b c d hoctets =>
      have hbyte : ∀ n ∈ [a, b, c, d], n ≤ 255 := by
        intro n hn
        have hread : some n ∈ ((s.splitOn '.').map octet?) := by
          rw [mapM_eq_some_iff.mp hoctets]
          exact List.mem_map_of_mem hn
        obtain ⟨part, -, hpart⟩ := List.mem_map.mp hread
        exact le_of_octet? hpart
      simp only [List.forall_mem_cons] at hbyte
      obtain rfl := Option.some.inj h
      simp only [List.forall_mem_cons]
      refine ⟨by omega, by omega, List.forall_mem_nil _⟩
    · cases h
  · obtain ⟨n, hn, rfl⟩ := Option.map_eq_some_iff.mp h
    exact List.forall_mem_singleton.mpr (lt_of_ipv6Piece? hn)

private theorem lt_of_ipv6Pieces? {isLast : Bool} {parts : List (List Char)} {pieces : List Nat}
    (h : ipv6Pieces? isLast parts = some pieces) : ∀ n ∈ pieces, n < 16 ^ 4 := by
  fun_induction ipv6Pieces? isLast parts generalizing pieces with
  | case1 =>
    obtain rfl := Option.some.inj h
    exact List.forall_mem_nil _
  | case2 part => exact lt_of_ipv6Tail? h
  | case3 part =>
    obtain ⟨n, hn, rfl⟩ := Option.map_eq_some_iff.mp h
    exact List.forall_mem_singleton.mpr (lt_of_ipv6Piece? hn)
  | case4 part rest hrest ih =>
    simp only [bind, Option.bind_eq_some_iff, pure, Option.some.injEq] at h
    obtain ⟨n, hn, others, hothers, rfl⟩ := h
    exact List.forall_mem_cons.mpr ⟨lt_of_ipv6Piece? hn, ih hothers⟩

private theorem lt_of_ipv6Side? {isLast : Bool} {s : List Char} {pieces : List Nat}
    (h : ipv6Side? isLast s = some pieces) : ∀ n ∈ pieces, n < 16 ^ 4 := by
  rw [ipv6Side?] at h
  split at h
  · obtain rfl := Option.some.inj h
    exact List.forall_mem_nil _
  · exact lt_of_ipv6Pieces? h

/-- An address of version 6 that is read is whole. -/
theorem Ipv6.isWhole_of_parse {s : List Char} {a : Ipv6} (h : Ipv6.parse? s = some a) :
    a.IsWhole := by
  rw [Ipv6.parse?] at h
  split at h
  · next before behind hcut =>
    simp only [bind, Option.bind_eq_some_iff, Option.ite_none_right_eq_some,
      Option.some.injEq] at h
    obtain ⟨front, hfront, back, hback, hlength, rfl⟩ := h
    constructor
    · simp only [List.length_append, List.length_replicate]
      omega
    · simp only [List.forall_mem_append]
      refine ⟨⟨lt_of_ipv6Side? hfront, ?_⟩, lt_of_ipv6Side? hback⟩
      intro n hn
      rw [List.eq_of_mem_replicate hn]
      decide
  · simp only [bind, Option.bind_eq_some_iff, Option.ite_none_right_eq_some,
      Option.some.injEq] at h
    obtain ⟨pieces, hpieces, hlength, rfl⟩ := h
    exact ⟨hlength, lt_of_ipv6Side? hpieces⟩

/-! ### The gap -/

private theorem leadingZeros_of_mem_longestGap {pieces : List Nat} :
    ∀ gap ∈ longestGap pieces, gap.2 = leadingZeros (pieces.drop gap.1) ∧ 2 ≤ gap.2 := by
  rw [longestGap]
  apply List.foldlRecOn (motive := fun best : Option (Nat × Nat) ↦ ∀ gap ∈ best,
    gap.2 = leadingZeros (pieces.drop gap.1) ∧ 2 ≤ gap.2)
  · intro gap hgap
    cases hgap
  · intro best hbest i _ gap hgap
    -- a gap is either kept, or found at this place and longer than the one before
    dsimp only at hgap
    split at hgap
    · obtain ⟨hle, hgap⟩ := Option.ite_none_right_eq_some.mp hgap
      obtain rfl := Option.some.inj hgap
      exact ⟨rfl, hle⟩
    · next start n =>
      obtain ⟨-, hle⟩ := hbest _ rfl
      split at hgap
      · next hlt =>
        obtain rfl := Option.some.inj hgap
        exact ⟨rfl, by omega⟩
      · exact hbest gap hgap

private theorem eq_append_of_longestGap {pieces : List Nat} {start count : Nat}
    (h : longestGap pieces = some (start, count)) :
    pieces = pieces.take start ++ List.replicate count 0 ++ pieces.drop (start + count) ∧
      2 ≤ count := by
  obtain ⟨hcount, hle⟩ := leadingZeros_of_mem_longestGap _ h
  refine ⟨?_, hle⟩
  have hzeros : (pieces.drop start).takeWhile (· == 0) = List.replicate count 0 := by
    rw [List.eq_replicate_iff]
    exact ⟨hcount.symm, fun n hn ↦ by simpa using List.mem_takeWhile_imp hn⟩
  have hsplit : pieces.drop start =
      List.replicate count 0 ++ (pieces.drop start).dropWhile (· == 0) := by
    rw [← hzeros, List.takeWhile_append_dropWhile]
  have hrest : (pieces.drop start).dropWhile (· == 0) = pieces.drop (start + count) := by
    rw [← List.drop_drop, hsplit, List.drop_left' List.length_replicate, ← hsplit]
  rw [List.append_assoc, ← hrest, ← hsplit, List.take_append_drop]

private theorem cutGap_append {a : List Char} (h : ':' ∉ a) (s : List Char) :
    cutGap (a ++ s) = (cutGap s).map fun (before, behind) ↦ (a ++ before, behind) := by
  induction a with
  | nil => simp
  | cons c a ih =>
    obtain ⟨hc, ha⟩ := not_or.mp (mt List.mem_cons.mpr h)
    rw [List.cons_append, cutGap.eq_2 _ _ (fun _ he _ ↦ hc he.symm), ih ha, Option.map_map]
    rfl

private theorem cutGap_intercalate_append {parts : List (List Char)}
    (h : ∀ part ∈ parts, part ≠ [] ∧ ':' ∉ part) (s : List Char) :
    cutGap ([':'].intercalate parts ++ s) =
      (cutGap s).map fun (before, behind) ↦ ([':'].intercalate parts ++ before, behind) := by
  induction parts with
  | nil => simp
  | cons part rest ih =>
    obtain ⟨⟨hne, hpart⟩, hrest⟩ := List.forall_mem_cons.mp h
    cases rest with
    | nil =>
      rw [List.intercalate_singleton]
      exact cutGap_append hpart s
    | cons next rest =>
      have hsingle : ∀ tail, [':'].intercalate (next :: rest) ++ s ≠ ':' :: tail := by
        intro tail htail
        obtain ⟨⟨hnext, hcolon⟩, -⟩ := List.forall_mem_cons.mp hrest
        obtain ⟨c, next, rfl⟩ := List.exists_cons_of_ne_nil hnext
        cases rest <;>
        · obtain rfl : c = ':' := (List.cons.inj htail).1
          exact hcolon List.mem_cons_self
      rw [List.intercalate_cons_cons, List.append_assoc, List.append_assoc,
        cutGap_append hpart, List.singleton_append, cutGap.eq_2 _ _ (fun tail _ ↦ hsingle tail),
        ih hrest, Option.map_map, Option.map_map]
      simp [Function.comp_def]

/-- The digits of a piece are no colons and no dots. -/
theorem ne_of_mem_toDigits {n : Nat} {c : Char} (h : c ∈ Nat.toDigits 16 n) :
    c ≠ ':' ∧ c ≠ '.' := by
  have hdigit : ∀ d < 16, Nat.digitChar d ≠ ':' ∧ Nat.digitChar d ≠ '.' := by decide
  apply Text.forall_mem_toDigits (p := fun c ↦ c ≠ ':' ∧ c ≠ '.') (by decide) hdigit n c h

/-- The written form of pieces, as characters. -/
theorem toList_renderPieces (pieces : List Nat) :
    (renderPieces pieces).toList = [':'].intercalate (pieces.map (Nat.toDigits 16)) := by
  simp [renderPieces, Function.comp_def]

private theorem ipv6Pieces?_toDigits (isLast : Bool) {pieces : List Nat}
    (h : ∀ n ∈ pieces, n < 16 ^ 4) :
    ipv6Pieces? isLast (pieces.map (Nat.toDigits 16)) = some pieces := by
  induction pieces with
  | nil => rfl
  | cons n rest ih =>
    obtain ⟨hn, hrest⟩ := List.forall_mem_cons.mp h
    have hpiece := ipv6Piece?_toDigits hn
    cases rest with
    | nil =>
      have htail : ipv6Tail? (Nat.toDigits 16 n) = some [n] := by
        have hdot : '.' ∉ Nat.toDigits 16 n := fun hc ↦ (ne_of_mem_toDigits hc).2 rfl
        rw [ipv6Tail?, if_neg (by simpa using hdot), hpiece]
        rfl
      simp [ipv6Pieces?, htail, hpiece]
    | cons next rest =>
      have hothers := ih hrest
      rw [List.map_cons] at hothers ⊢
      rw [List.map_cons, ipv6Pieces?, hothers, hpiece]
      · rfl
      · simp

/-- The texts of pieces can be told apart at the colons between them. -/
theorem colon_not_mem_of_mem_map {pieces : List Nat} :
    ∀ part ∈ pieces.map (Nat.toDigits 16), part ≠ [] ∧ ':' ∉ part := by
  rw [List.forall_mem_map]
  exact fun n _ ↦ ⟨Nat.toDigits_ne_nil, fun hc ↦ (ne_of_mem_toDigits hc).1 rfl⟩

private theorem ipv6Side?_renderPieces (isLast : Bool) {pieces : List Nat}
    (h : ∀ n ∈ pieces, n < 16 ^ 4) :
    ipv6Side? isLast (renderPieces pieces).toList = some pieces := by
  rw [ipv6Side?, toList_renderPieces]
  cases pieces with
  | nil => rfl
  | cons n rest =>
    have hsplit : ([':'].intercalate ((n :: rest).map (Nat.toDigits 16))).splitOn ':' =
        (n :: rest).map (Nat.toDigits 16) :=
      List.splitOn_intercalate ':' (fun part hp ↦ (colon_not_mem_of_mem_map part hp).2) (by simp)
    rw [hsplit, ipv6Pieces?_toDigits isLast h, if_neg]
    rw [List.isEmpty_iff]
    intro hnil
    rw [hnil, List.splitOn_nil] at hsplit
    exact (colon_not_mem_of_mem_map [] (hsplit ▸ List.mem_singleton_self [])).1 rfl

/-- A whole address of version 6 is read back from its written form. -/
theorem Ipv6.parse?_render {a : Ipv6} (h : a.IsWhole) : Ipv6.parse? a.render.toList = some a := by
  rw [Ipv6.render]
  split
  · have hcut := cutGap_intercalate_append (@colon_not_mem_of_mem_map a.pieces) []
    rw [List.append_nil, ← toList_renderPieces] at hcut
    simp only [Ipv6.parse?, hcut, cutGap, Option.map_none, ipv6Side?_renderPieces true h.lt, bind,
      Option.bind_some]
    exact if_pos h.length
  · next start count hgap =>
    obtain ⟨hpieces, hcount⟩ := eq_append_of_longestGap hgap
    have hfront : ∀ n ∈ a.pieces.take start, n < 16 ^ 4 :=
      fun n hn ↦ h.lt n (List.mem_of_mem_take hn)
    have hback : ∀ n ∈ a.pieces.drop (start + count), n < 16 ^ 4 :=
      fun n hn ↦ h.lt n (List.mem_of_mem_drop hn)
    have hlength := congrArg List.length hpieces
    rw [h.length] at hlength
    generalize a.pieces.take start = front at *
    generalize a.pieces.drop (start + count) = back at *
    simp only [List.length_append, List.length_replicate] at hlength
    have hcut := cutGap_intercalate_append (@colon_not_mem_of_mem_map front)
      (':' :: ':' :: (renderPieces back).toList)
    have htext : (renderPieces front ++ "::" ++ renderPieces back).toList =
        (renderPieces front).toList ++ ':' :: ':' :: (renderPieces back).toList := by
      simp
    simp only [cutGap, Option.map_some, List.append_nil, ← toList_renderPieces] at hcut
    simp only [Ipv6.parse?, htext, hcut, ipv6Side?_renderPieces _ hfront,
      ipv6Side?_renderPieces _ hback, bind, Option.bind_some]
    rw [if_pos (by omega)]
    congr
    have hzeros : 8 - front.length - back.length = count := by omega
    rw [hzeros, ← hpieces]

end ContainerBuild.Url
