import ContainerBuild.Proofs.Text.Trim
import ContainerBuild.Text.Split

/-!
# Words and pieces

A blank ends a word and belongs to none, so blanks at either end of a text do not change its
words, and what is put in front of a text without a blank goes into its first word. A text that
is put together from pieces has the characters of its pieces and of what stands between them.
-/

namespace ContainerBuild.Text

/-- Nothing has no words. -/
@[simp] theorem words_nil : words [] = [] := rfl

/-- The words around a blank. -/
theorem words_append_cons_blank {c : Char} (hc : isBlank c = true) (a b : List Char) :
    words (a ++ c :: b) = words a ++ words b := by
  rw [words, List.splitOnP_append_cons a b hc, List.filter_append, words, words]

/-- Blanks in front of a text belong to no word. -/
theorem words_append_left {a : List Char} (h : ∀ c ∈ a, isBlank c = true) (s : List Char) :
    words (a ++ s) = words s := by
  induction a with
  | nil => rfl
  | cons c a ih =>
    have hc : words (c :: (a ++ s)) = words (a ++ s) :=
      words_append_cons_blank (h c List.mem_cons_self) [] (a ++ s)
    rw [List.cons_append, hc, ih fun x hx ↦ h x (List.mem_cons_of_mem _ hx)]

/-- Blanks behind a text belong to no word. -/
theorem words_append_right {b : List Char} (h : ∀ c ∈ b, isBlank c = true) (s : List Char) :
    words (s ++ b) = words s := by
  cases b with
  | nil => rw [List.append_nil]
  | cons c b =>
    have hb : words (b ++ []) = words [] :=
      words_append_left (fun x hx ↦ h x (List.mem_cons_of_mem _ hx)) []
    rw [List.append_nil, words_nil] at hb
    rw [words_append_cons_blank (h c List.mem_cons_self), hb, List.append_nil]

/-- A text without blanks is one word. -/
theorem words_eq_singleton {w : List Char} (hne : w ≠ []) (h : ∀ c ∈ w, isBlank c = false) :
    words w = [w] := by
  rw [words, List.splitOnP_eq_singleton h]
  exact List.filter_cons_of_pos (by simpa using hne)

/-- A text that does not begin with a blank begins with a word, and what stands in front of it
without a blank belongs to that word. -/
theorem words_append_cons {a : List Char} (ha : ∀ x ∈ a, isBlank x = false) {c : Char}
    (hc : isBlank c = false) (s : List Char) :
    words (a ++ c :: s) =
      (a ++ c :: s.takeWhile (!isBlank ·)) :: words (s.dropWhile (!isBlank ·)) := by
  have hw : words (a ++ c :: s.takeWhile (!isBlank ·)) = [a ++ c :: s.takeWhile (!isBlank ·)] := by
    refine words_eq_singleton (by simp) fun x hx ↦ ?_
    rcases List.mem_append.mp hx with hx | hx
    · exact ha x hx
    · rcases List.mem_cons.mp hx with rfl | hx
      · exact hc
      · simpa using List.mem_takeWhile_imp hx
  cases hd : s.dropWhile (!isBlank ·) with
  | nil =>
    have hs : s.takeWhile (!isBlank ·) = s := by
      have := List.takeWhile_append_dropWhile (p := (!isBlank ·)) (l := s)
      rwa [hd, List.append_nil] at this
    rw [hs] at hw ⊢
    rw [hw, words_nil]
  | cons d rest =>
    have hblank : isBlank d = true := by
      have := List.head_dropWhile_not (p := (!isBlank ·)) (l := s) (by simp [hd])
      simpa [hd] using this
    have hs : s = s.takeWhile (!isBlank ·) ++ d :: rest := by
      rw [← hd, List.takeWhile_append_dropWhile]
    have hrest : words (d :: rest) = words rest := words_append_cons_blank hblank [] rest
    calc words (a ++ c :: s)
        = words ((a ++ c :: s.takeWhile (!isBlank ·)) ++ d :: rest) := by
          rw [List.append_assoc, List.cons_append, ← hs]
      _ = _ := by rw [words_append_cons_blank hblank, hw, hrest, List.singleton_append]

/-- What can be checked for each character of a text holds for all of them. -/
theorem forall_mem_of_all {s : List Char} {p : Char → Prop} [DecidablePred p]
    (h : s.all (fun c ↦ decide (p c)) = true) : ∀ c ∈ s, p c := by
  simpa using h

/-- What can be checked for the numbers of ASCII characters holds for these characters. -/
theorem forall_ascii {p : Char → Prop} (h : ∀ n < 128, p (Char.ofNat n)) :
    ∀ c : Char, c.toNat < 128 → p c := by
  intro c hc
  have hchar := h c.toNat hc
  rwa [Char.ofNat_toNat] at hchar

/-- The characters of pieces that are put together. -/
theorem mem_intercalate {sep : List Char} {pieces : List (List Char)} {c : Char}
    (h : c ∈ sep.intercalate pieces) : c ∈ sep ∨ ∃ piece ∈ pieces, c ∈ piece := by
  induction pieces with
  | nil => cases h
  | cons piece rest ih =>
    cases rest with
    | nil =>
      rw [List.intercalate_singleton] at h
      exact .inr ⟨piece, List.mem_cons_self, h⟩
    | cons next rest =>
      rw [List.intercalate_cons_cons, List.mem_append, List.mem_append] at h
      rcases h with (h | h) | h
      · exact .inr ⟨piece, List.mem_cons_self, h⟩
      · exact .inl h
      · rcases ih h with h | ⟨p, hp, h⟩
        · exact .inl h
        · exact .inr ⟨p, List.mem_cons_of_mem _ hp, h⟩

/-- The pieces of a text have its characters. -/
theorem mem_intercalate_of_mem {sep piece : List Char} {pieces : List (List Char)}
    (hp : piece ∈ pieces) {c : Char} (hc : c ∈ piece) : c ∈ sep.intercalate pieces := by
  induction pieces with
  | nil => cases hp
  | cons first rest ih =>
    cases rest with
    | nil =>
      obtain rfl := List.mem_singleton.mp hp
      rwa [List.intercalate_singleton]
    | cons next rest =>
      rw [List.intercalate_cons_cons, List.mem_append]
      rcases List.mem_cons.mp hp with rfl | hp
      · exact .inl (List.mem_append_left _ hc)
      · exact .inr (ih hp)

/-- A piece between the characters of a class has none of them. -/
theorem eq_false_of_mem_splitOnP {f : Char → Bool} {s piece : List Char}
    (hp : piece ∈ s.splitOnP f) : ∀ c ∈ piece, f c = false := by
  induction s generalizing piece with
  | nil =>
    rw [List.splitOnP_nil, List.mem_singleton] at hp
    rw [hp]
    exact List.forall_mem_nil _
  | cons c s ih =>
    rw [List.splitOnP_cons_eq_if_modifyHead] at hp
    split at hp
    · rcases List.mem_cons.mp hp with rfl | hp
      · exact List.forall_mem_nil _
      · exact ih hp
    · next hc =>
      obtain ⟨first, rest, hs⟩ := List.exists_cons_of_ne_nil (List.splitOnP_ne_nil f s)
      rw [hs, List.modifyHead_cons] at hp
      rcases List.mem_cons.mp hp with rfl | hp
      · exact List.forall_mem_cons.mpr ⟨by simpa using hc, ih (hs ▸ List.mem_cons_self)⟩
      · exact ih (hs ▸ List.mem_cons_of_mem _ hp)

/-- A piece between the occurrences of a character has none of them. -/
theorem not_mem_of_mem_splitOn {sep : Char} {s piece : List Char} (hp : piece ∈ s.splitOn sep) :
    sep ∉ piece := by
  rw [List.splitOn_eq_splitOnP] at hp
  intro hc
  simpa using eq_false_of_mem_splitOnP hp sep hc

/-- Pieces with a character between them are told apart again when none of them has it. -/
theorem splitOn_intercalate {sep : Char} {text : String} (htext : text.toList = [sep])
    {pieces : List String} (hne : pieces ≠ []) (h : ∀ piece ∈ pieces, sep ∉ piece.toList) :
    splitOn sep (text.intercalate pieces) = pieces := by
  rw [splitOn, String.toList_intercalate, htext, List.splitOn_intercalate]
  · simp
  · rwa [List.forall_mem_map]
  · simpa using hne

/-- A text is made of its pieces with the character that divides them in between. -/
theorem intercalate_splitOn {sep : Char} {text : String} (htext : text.toList = [sep])
    (s : String) : text.intercalate (splitOn sep s) = s := by
  apply String.toList_inj.mp
  rw [splitOn, String.toList_intercalate, htext, List.map_map]
  simp [Function.comp_def, List.intercalate_splitOn]

/-- Where two divisions of a text agree on all its characters, they give the same pieces. -/
theorem splitOnP_congr {f g : Char → Bool} {s : List Char} (h : ∀ c ∈ s, f c = g c) :
    s.splitOnP f = s.splitOnP g := by
  induction s with
  | nil => rfl
  | cons c s ih =>
    obtain ⟨hc, hs⟩ := List.forall_mem_cons.mp h
    rw [List.splitOnP_cons_eq_if_modifyHead, List.splitOnP_cons_eq_if_modifyHead, hc, ih hs]

/-- A text is not cut at another when that one does not occur in it. -/
theorem cutAtText_eq_none_iff {sep s : List Char} (hsep : sep ≠ []) :
    cutAtText sep s = none ↔ ¬ sep <:+: s := by
  induction s with
  | nil => simp [cutAtText, hsep]
  | cons c s ih =>
    rw [cutAtText, List.infix_cons_iff, not_or, ← ih]
    cases hafter : after? sep (c :: s) with
    | some behind =>
      have hstarts : sep <+: c :: s := ⟨behind, (after?_eq_some_iff.mp hafter).symm⟩
      simp [hstarts]
    | none =>
      have hstarts : ¬ sep <+: c :: s := by
        rintro ⟨behind, hs⟩
        rw [after?_eq_some_iff.mpr hs.symm] at hafter
        cases hafter
      simp [hstarts]

/-- A text is cut at the first place where another occurs: that one does not begin any earlier. -/
theorem cutAtText_eq_some_iff {sep s a b : List Char} (hsep : sep ≠ []) :
    cutAtText sep s = some (a, b) ↔ s = a ++ sep ++ b ∧ ¬ sep <:+: a ++ sep.dropLast := by
  have hpos := List.length_pos_iff.mpr hsep
  have hfront (a b : List Char) : a ++ sep.dropLast <+: a ++ sep ++ b :=
    ((List.prefix_append_right_inj a).mpr (List.dropLast_prefix sep)).trans
      (List.prefix_append _ _)
  induction s generalizing a with
  | nil => simp [cutAtText, hsep]
  | cons c s ih =>
    rw [cutAtText]
    cases hafter : after? sep (c :: s) with
    | some behind =>
      have hs := after?_eq_some_iff.mp hafter
      simp only [Option.some.injEq, Prod.mk.injEq]
      constructor
      · rintro ⟨rfl, rfl⟩
        refine ⟨hs, fun hinside ↦ ?_⟩
        have hlength := hinside.length_le
        simp only [List.nil_append, List.length_dropLast] at hlength
        omega
      · rintro ⟨heq, hfirst⟩
        cases a with
        | nil =>
          rw [heq, List.nil_append] at hs
          exact ⟨rfl, (List.append_cancel_left hs).symm⟩
        | cons x a =>
          refine absurd (List.IsPrefix.isInfix ?_) hfirst
          refine List.prefix_of_prefix_length_le ⟨behind, hs.symm⟩ (heq ▸ hfront (x :: a) b) ?_
          simp only [List.length_append, List.length_cons, List.length_dropLast]
          omega
    | none =>
      have hnot {t : List Char} (ht : t <+: c :: s) : ¬ sep <+: t := by
        intro hstarts
        obtain ⟨behind, hs⟩ := hstarts.trans ht
        rw [after?_eq_some_iff.mpr hs.symm] at hafter
        cases hafter
      simp only [Option.map_eq_some_iff, Prod.exists, Prod.mk.injEq]
      constructor
      · rintro ⟨a, b, hcut, rfl, rfl⟩
        obtain ⟨rfl, hfirst⟩ := ih.mp hcut
        refine ⟨rfl, fun hinside ↦ ?_⟩
        rcases List.infix_cons_iff.mp hinside with hstarts | hinside
        · exact hnot (hfront (c :: a) b) hstarts
        · exact hfirst hinside
      · rintro ⟨heq, hfirst⟩
        cases a with
        | nil =>
          rw [List.nil_append] at heq
          exact absurd ⟨b, heq.symm⟩ (hnot (List.prefix_refl _))
        | cons x a =>
          obtain ⟨rfl, rfl⟩ := List.cons.inj heq
          refine ⟨a, b, ih.mpr ⟨rfl, fun hinside ↦ ?_⟩, rfl, rfl⟩
          exact hfirst (hinside.trans (List.suffix_cons _ _).isInfix)

end ContainerBuild.Text
