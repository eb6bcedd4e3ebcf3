import ContainerBuild.Dict

/-!
# Entries of merged dictionaries

An insertion leaves the entries with other keys alone. A merged dictionary therefore has the
entries of the second dictionary, and of the first one those whose keys the second has not.
-/

namespace ContainerBuild.Dict

variable {α : Type} {key : String} {value : α} {p : String × α}

private theorem mem_place_iff {l : List (String × α)} (h : l.Pairwise (fun a b ↦ a.1 < b.1)) :
    p ∈ place key value l ↔ p = (key, value) ∨ p ∈ l ∧ p.1 ≠ key := by
  induction l with
  | nil => simp [place]
  | cons q rest ih =>
    obtain ⟨k, v⟩ := q
    obtain ⟨hq, hrest⟩ := List.pairwise_cons.mp h
    have hbehind (hk : key = k ∨ key < k) : ∀ x ∈ rest, x.1 ≠ key := by
      rintro x hx rfl
      have hlt : k < x.1 := hq x hx
      rcases hk with hk | hk
      · exact String.lt_irrefl _ (hk ▸ hlt)
      · exact String.lt_irrefl _ (String.lt_trans hlt hk)
    rw [place]
    split
    · next hlt =>
      have hne : ∀ x ∈ (k, v) :: rest, x.1 ≠ key := by
        refine List.forall_mem_cons.mpr ⟨?_, hbehind (.inr hlt)⟩
        rintro rfl
        exact String.lt_irrefl _ hlt
      rw [List.mem_cons]
      exact or_congr_right ⟨fun hp ↦ ⟨hp, hne p hp⟩, And.left⟩
    · split
      · next heq =>
        subst heq
        rw [List.mem_cons, List.mem_cons]
        refine or_congr_right ⟨fun hp ↦ ⟨.inr hp, hbehind (.inl rfl) p hp⟩, ?_⟩
        rintro ⟨rfl | hp, hne⟩
        · exact absurd rfl hne
        · exact hp
      · next hne =>
        rw [List.mem_cons, List.mem_cons, ih hrest]
        constructor
        · rintro (rfl | rfl | ⟨hp, hpk⟩)
          · exact .inr ⟨.inl rfl, fun he ↦ hne he.symm⟩
          · exact .inl rfl
          · exact .inr ⟨.inr hp, hpk⟩
        · rintro (rfl | ⟨rfl | hp, hpk⟩)
          · exact .inr (.inl rfl)
          · exact .inl rfl
          · exact .inr (.inr ⟨hp, hpk⟩)

private theorem mem_entries_insert {d : Dict α} :
    p ∈ (d.insert key value).entries ↔ p = (key, value) ∨ p ∈ d.entries ∧ p.1 ≠ key :=
  mem_place_iff d.ascending

/-- Insertions of pairs with different keys give these pairs and keep the entries with other
keys. -/
theorem mem_entries_insertAll {pairs : List (String × α)} (h : (pairs.map Prod.fst).Nodup)
    (d : Dict α) :
    p ∈ (d.insertAll pairs).entries ↔ p ∈ pairs ∨ p ∈ d.entries ∧ p.1 ∉ pairs.map Prod.fst := by
  induction pairs generalizing d with
  | nil => simp [insertAll]
  | cons q rest ih =>
    obtain ⟨k, v⟩ := q
    rw [List.map_cons, List.nodup_cons] at h
    have hstep : d.insertAll ((k, v) :: rest) = (d.insert k v).insertAll rest := rfl
    rw [hstep, ih h.2, mem_entries_insert, List.mem_cons, List.map_cons, List.mem_cons, not_or]
    constructor
    · rintro (hp | ⟨rfl | ⟨hp, hne⟩, hrest⟩)
      · exact .inl (.inr hp)
      · exact .inl (.inl rfl)
      · exact .inr ⟨hp, hne, hrest⟩
    · rintro ((rfl | hp) | ⟨hp, hne, hrest⟩)
      · exact .inr ⟨.inl rfl, h.1⟩
      · exact .inl hp
      · exact .inr ⟨.inr ⟨hp, hne⟩, hrest⟩

/-- The entries of two dictionaries together are those of the second one, and those of the
first one with other keys. -/
theorem mem_entries_merge {a b : Dict α} :
    p ∈ (a.merge b).entries ↔ p ∈ b.entries ∨ p ∈ a.entries ∧ p.1 ∉ b.keys :=
  mem_entries_insertAll b.nodup_keys a

/-- The keys of two dictionaries together are those of the one and those of the other. -/
theorem mem_keys_merge {a b : Dict α} : key ∈ (a.merge b).keys ↔ key ∈ b.keys ∨ key ∈ a.keys := by
  constructor
  · intro h
    obtain ⟨p, hp, rfl⟩ := List.mem_map.mp h
    rcases mem_entries_merge.mp hp with hp | ⟨hp, -⟩
    · exact .inl (List.mem_map.mpr ⟨p, hp, rfl⟩)
    · exact .inr (List.mem_map.mpr ⟨p, hp, rfl⟩)
  · intro h
    by_cases hb : key ∈ b.keys
    · obtain ⟨p, hp, rfl⟩ := List.mem_map.mp hb
      exact List.mem_map.mpr ⟨p, mem_entries_merge.mpr (.inl hp), rfl⟩
    · obtain ⟨p, hp, rfl⟩ := List.mem_map.mp (h.resolve_left hb)
      exact List.mem_map.mpr ⟨p, mem_entries_merge.mpr (.inr ⟨hp, hb⟩), rfl⟩

/-- What holds of all entries of a first dictionary holds of all entries of both together when
it holds of those of the second one. -/
theorem forall_mem_entries_merge {a b : Dict α} {P : String × α → Prop}
    (ha : ∀ p ∈ a.entries, P p) : (∀ p ∈ (a.merge b).entries, P p) ↔ ∀ p ∈ b.entries, P p := by
  constructor
  · exact fun h p hp ↦ h p (mem_entries_merge.mpr (.inl hp))
  · intro h p hp
    rcases mem_entries_merge.mp hp with hp | ⟨hp, -⟩
    · exact h p hp
    · exact ha p hp

end ContainerBuild.Dict
