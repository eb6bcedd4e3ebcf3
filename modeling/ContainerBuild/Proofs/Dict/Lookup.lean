import ContainerBuild.Dict
import Mathlib.Data.List.Nodup

/-!
# Values of keys

A key that stands once is found with the value that stands beside it. A dictionary therefore
gives a key the value of the entry with that key, and the entries can be spoken of by their keys.
The values of all keys determine a dictionary, and say what inserting and erasing does to it.
-/

namespace ContainerBuild.Dict

variable {α : Type} {d d' : Dict α} {key : String} {value : α}

/-- A key that stands once is found with its value. -/
theorem lookup_of_mem {l : List (String × α)} (h : (l.map Prod.fst).Nodup)
    (hmem : (key, value) ∈ l) : l.lookup key = some value := by
  induction l with
  | nil => cases hmem
  | cons p rest ih =>
    obtain ⟨k, v⟩ := p
    rw [List.map_cons, List.nodup_cons] at h
    rcases List.mem_cons.mp hmem with heq | hmem
    · cases heq
      exact List.lookup_cons_self
    · have hne : (key == k) = false := by
        rw [beq_eq_false_iff_ne]
        exact fun heq ↦ h.1 (List.mem_map.mpr ⟨_, hmem, heq⟩)
      rw [List.lookup_cons, hne]
      exact ih h.2 hmem

/-- A dictionary gives a key the value of the entry with that key. -/
theorem mem_entries_iff_get? : (key, value) ∈ d.entries ↔ d.get? key = some value := by
  constructor
  · exact lookup_of_mem d.nodup_keys
  · intro h
    rw [get?, List.lookup_eq_some_iff] at h
    obtain ⟨before, after, he, -⟩ := h
    rw [he]
    exact List.mem_append_right _ List.mem_cons_self

/-- A key of a dictionary has the value of one of its entries. -/
theorem exists_get?_of_mem_keys (h : key ∈ d.keys) :
    ∃ value, d.get? key = some value ∧ (key, value) ∈ d.entries := by
  obtain ⟨⟨key, value⟩, hmem, rfl⟩ := List.mem_map.mp h
  exact ⟨value, mem_entries_iff_get?.mp hmem, hmem⟩

/-- The entry with a key that no other one is smaller than stands before all others. -/
theorem exists_entries_eq_of_forall_not_lt (h : d.get? key = some value)
    (hleast : ∀ other ∈ d.keys, ¬ other < key) : ∃ rest, d.entries = (key, value) :: rest := by
  have hmem := mem_entries_iff_get?.mpr h
  have hascending := d.ascending
  cases he : d.entries with
  | nil =>
    rw [he] at hmem
    cases hmem
  | cons first rest =>
    rw [he] at hmem hascending
    rcases List.mem_cons.mp hmem with rfl | hrest
    · exact ⟨rest, rfl⟩
    · have hfirst : first.1 ∈ d.keys := List.mem_map.mpr ⟨first, he ▸ List.mem_cons_self, rfl⟩
      exact absurd ((List.pairwise_cons.mp hascending).1 _ hrest) (hleast _ hfirst)

/-- The entry with the empty key stands before all others. -/
theorem exists_entries_eq_of_get?_empty (h : d.get? "" = some value) :
    ∃ rest, d.entries = ("", value) :: rest := by
  refine exists_entries_eq_of_forall_not_lt h fun other _ hlt ↦ ?_
  have hnil : other.toList < [] := hlt
  exact List.not_lt_nil _ hnil

/-- Dictionaries that give every key the same value are equal. -/
theorem eq_of_get?_eq (h : ∀ key, d.get? key = d'.get? key) : d = d' := by
  apply eq_of_entries_eq
  have hasymm {a b : String × α} (hab : a.1 < b.1) (hba : b.1 < a.1) : a = b :=
    absurd (String.lt_trans hab hba) (String.lt_irrefl _)
  apply List.Perm.eq_of_pairwise (fun _ _ _ _ ↦ hasymm) d.ascending d'.ascending
  rw [List.perm_ext_iff_of_nodup d.nodup_keys.of_map d'.nodup_keys.of_map]
  rintro ⟨key, value⟩
  rw [mem_entries_iff_get?, mem_entries_iff_get?, h]

/-! ## Changes -/

/-- The dictionary without a key. -/
def erase (d : Dict α) (key : String) : Dict α where
  entries := d.entries.filter (·.1 ≠ key)
  ascending := d.ascending.filter _

/-- Without a key, the others keep their values. -/
theorem get?_erase (d : Dict α) (key other : String) :
    (d.erase key).get? other = if other = key then none else d.get? other := by
  have hmem (value : α) : (other, value) ∈ (d.erase key).entries ↔
      (other, value) ∈ d.entries ∧ other ≠ key := by
    simp [erase]
  apply Option.ext
  intro value
  rw [← mem_entries_iff_get?, hmem, mem_entries_iff_get?]
  split
  · next h => simp [h]
  · next h => simp [h]

end ContainerBuild.Dict
