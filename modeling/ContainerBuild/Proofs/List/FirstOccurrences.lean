import Mathlib.Data.List.Nodup

/-!
# First occurrences

Of a list, each item is kept where it stands first. What is kept has the items of the list, in the
order of their first places, and this determines it: `isFirstOccurrences_iff` says that erasing
repetitions gives just this list.
-/

namespace ContainerBuild

variable {α : Type} [BEq α] [LawfulBEq α]

/-- What is kept of a list are its items, in the order of the places where they stand first. -/
structure IsFirstOccurrences (l kept : List α) : Prop where
  mem_iff : ∀ a, a ∈ kept ↔ a ∈ l
  ascending : kept.Pairwise fun a b ↦ l.idxOf a < l.idxOf b

omit [LawfulBEq α] in
/-- Nothing is kept twice. -/
theorem IsFirstOccurrences.nodup {l kept : List α} (h : IsFirstOccurrences l kept) : kept.Nodup :=
  h.ascending.imp fun hab he ↦ by
    rw [he] at hab
    exact Nat.lt_irrefl _ hab

private theorem idxOf_filter_lt {l : List α} {p : α → Bool} {a b : α} (ha : a ∈ l)
    (hpa : p a = true)
    (hpb : p b = true) : (l.filter p).idxOf a < (l.filter p).idxOf b ↔ l.idxOf a < l.idxOf b := by
  induction l with
  | nil => cases ha
  | cons c rest ih =>
    by_cases hca : c = a
    · subst hca
      rw [List.filter_cons_of_pos hpa]
      simp only [List.idxOf_cons_self, List.idxOf_cons]
      cases c == b <;> simp
    · have ha : a ∈ rest := (List.mem_cons.mp ha).resolve_left (Ne.symm hca)
      have hbeq : (c == a) = false := by simpa using hca
      by_cases hcb : c = b
      · subst hcb
        rw [List.filter_cons_of_pos hpb]
        simp
      · have hbeq' : (c == b) = false := by simpa using hcb
        have hcons : (c :: rest).idxOf a < (c :: rest).idxOf b ↔ rest.idxOf a < rest.idxOf b := by
          simp [List.idxOf_cons, hbeq, hbeq']
        rw [hcons, ← ih ha]
        cases hpc : p c with
        | true => simp [List.filter_cons_of_pos hpc, List.idxOf_cons, hbeq, hbeq']
        | false => rw [List.filter_cons_of_neg (by simp [hpc])]

/-- Erasing repetitions keeps the first occurrences. -/
theorem isFirstOccurrences_eraseDups (l : List α) : IsFirstOccurrences l l.eraseDups := by
  refine ⟨fun a ↦ List.mem_eraseDups, ?_⟩
  induction hn : l.length using Nat.strongRecOn generalizing l with
  | _ n ih =>
    cases l with
    | nil => exact .nil
    | cons c rest =>
      have hlength : (rest.filter fun b ↦ !b == c).length < n := by
        have := List.length_filter_le (fun b ↦ !b == c) rest
        rw [List.length_cons] at hn
        omega
      have hne {a : α} (ha : a ∈ (rest.filter fun b ↦ !b == c).eraseDups) :
          a ∈ rest ∧ (c == a) = false ∧ (!a == c) = true := by
        obtain ⟨hmem, hp⟩ := List.mem_filter.mp (List.mem_eraseDups.mp ha)
        refine ⟨hmem, ?_, hp⟩
        rw [Bool.not_eq_true', beq_eq_false_iff_ne] at hp
        simpa using Ne.symm hp
      rw [List.eraseDups_cons, List.pairwise_cons]
      constructor
      · intro a ha
        simp [List.idxOf_cons, (hne ha).2.1]
      · -- behind the first item, the places are those in the rest without this item
        refine List.Pairwise.imp_of_mem (fun {a b} ha hb hab ↦ ?_) (ih _ hlength _ rfl)
        obtain ⟨hmem, hca, hpa⟩ := hne ha
        obtain ⟨-, hcb, hpb⟩ := hne hb
        have hrest := (idxOf_filter_lt hmem hpa hpb).mp hab
        simpa [List.idxOf_cons, hca, hcb] using hrest

/-- Nothing stands twice in a list of first occurrences. -/
theorem nodup_eraseDups (l : List α) : l.eraseDups.Nodup :=
  (isFirstOccurrences_eraseDups l).nodup

/-- A list in which nothing stands twice has only first occurrences. -/
theorem eraseDups_eq_self {l : List α} (h : l.Nodup) : l.eraseDups = l := by
  induction l with
  | nil => rfl
  | cons a rest ih =>
    obtain ⟨ha, hrest⟩ := List.nodup_cons.mp h
    have hfilter : rest.filter (fun b ↦ !b == a) = rest := by
      rw [List.filter_eq_self]
      intro b hb
      have hne : b ≠ a := fun he ↦ ha (he ▸ hb)
      simpa using hne
    rw [List.eraseDups_cons, hfilter, ih hrest]

/-- First occurrences are what is left when repetitions are erased. -/
theorem isFirstOccurrences_iff {l kept : List α} :
    IsFirstOccurrences l kept ↔ kept = l.eraseDups := by
  constructor
  · intro h
    have hself := isFirstOccurrences_eraseDups l
    apply List.Perm.eq_of_pairwise _ h.ascending hself.ascending
    · rw [List.perm_ext_iff_of_nodup h.nodup hself.nodup]
      intro a
      rw [h.mem_iff, hself.mem_iff]
    · intro a b _ _ hab hba
      exact absurd (Nat.lt_trans hab hba) (Nat.lt_irrefl _)
  · rintro rfl
    exact isFirstOccurrences_eraseDups l

end ContainerBuild
