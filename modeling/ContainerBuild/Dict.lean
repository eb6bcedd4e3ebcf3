/-!
# Dictionaries in key order

A dictionary holds each key once, in ascending order of its characters, so equal
contents are equal dictionaries. `Dict.entries` is the view that every law uses.
-/

namespace ContainerBuild

/-- Text keys in ascending order, each with a value. -/
structure Dict (α : Type) where
  entries : List (String × α)
  ascending : entries.Pairwise (fun a b ↦ a.1 < b.1)
deriving DecidableEq

namespace Dict

variable {α β : Type}

/-- Two dictionaries with the same entries are equal. -/
theorem eq_of_entries_eq {a b : Dict α} (h : a.entries = b.entries) : a = b := by
  cases a; cases b; cases h; rfl

/-- The dictionary without keys. -/
def empty : Dict α := ⟨[], .nil⟩

instance : Inhabited (Dict α) := ⟨empty⟩

/-- Puts a pair into ascending pairs, in place of one with the same key. -/
def place (key : String) (value : α) : List (String × α) → List (String × α)
  | [] => [(key, value)]
  | (k, v) :: rest =>
    if key < k then (key, value) :: (k, v) :: rest
    else if key = k then (key, value) :: rest
    else (k, v) :: place key value rest

/-- A placed pair is the new one or an old one with another key. -/
theorem mem_place {key : String} {value : α} {p : String × α} {l : List (String × α)}
    (h : p ∈ place key value l) : p = (key, value) ∨ p ∈ l := by
  induction l with
  | nil => simpa [place] using h
  | cons q rest ih =>
    obtain ⟨k, v⟩ := q
    unfold place at h
    split at h
    · rcases List.mem_cons.1 h with h | h
      · exact .inl h
      · exact .inr h
    · split at h
      · rcases List.mem_cons.1 h with h | h
        · exact .inl h
        · exact .inr (List.mem_cons_of_mem _ h)
      · rcases List.mem_cons.1 h with h | h
        · exact .inr (h ▸ List.mem_cons_self)
        · exact (ih h).imp_right (List.mem_cons_of_mem _)

/-- Placing a pair keeps the order. -/
theorem ascending_place {key : String} {value : α} {l : List (String × α)}
    (h : l.Pairwise (fun a b ↦ a.1 < b.1)) :
    (place key value l).Pairwise (fun a b ↦ a.1 < b.1) := by
  induction l with
  | nil => simp [place]
  | cons q rest ih =>
    obtain ⟨k, v⟩ := q
    obtain ⟨hq, hrest⟩ := List.pairwise_cons.1 h
    unfold place
    split
    next hlt =>
      refine List.pairwise_cons.2 ⟨fun p hp ↦ ?_, h⟩
      rcases List.mem_cons.1 hp with rfl | hp
      · exact hlt
      · exact String.lt_trans hlt (hq p hp)
    next hnlt =>
      split
      next heq => exact List.pairwise_cons.2 ⟨fun p hp ↦ heq ▸ hq p hp, hrest⟩
      next hne =>
        have hkk : k < key := by
          rcases String.le_total k key with hle | hle
          · exact Decidable.byContradiction fun hn ↦
              hne (String.le_antisymm (String.not_lt.1 hn) hle)
          · exact absurd (String.le_antisymm hle (String.not_lt.1 hnlt)) hne
        refine List.pairwise_cons.2 ⟨fun p hp ↦ ?_, ih hrest⟩
        rcases mem_place hp with rfl | hp
        · exact hkk
        · exact hq p hp

/-- Gives a key its value, in place of an earlier one. -/
def insert (d : Dict α) (key : String) (value : α) : Dict α :=
  ⟨place key value d.entries, ascending_place d.ascending⟩

/-- The value of a key. -/
def get? (d : Dict α) (key : String) : Option α :=
  d.entries.lookup key

/-- The keys in ascending order. -/
def keys (d : Dict α) : List String := d.entries.map Prod.fst

/-- Inserts pairs from left to right, so the last of equal keys stays. -/
def insertAll (d : Dict α) (pairs : List (String × α)) : Dict α :=
  pairs.foldl (fun d p ↦ d.insert p.1 p.2) d

/-- The dictionary of some pairs; the last of equal keys stays. -/
def ofList (pairs : List (String × α)) : Dict α := empty.insertAll pairs

/-- Both dictionaries together; the second one's values win. -/
def merge (a b : Dict α) : Dict α := a.insertAll b.entries

/-- Another value for each key. -/
def map (f : α → β) (d : Dict α) : Dict β where
  entries := d.entries.map fun p ↦ (p.1, f p.2)
  ascending := List.pairwise_map.2 d.ascending

/-- The empty dictionary has no entries. -/
@[simp] theorem entries_empty : (empty : Dict α).entries = [] := rfl

/-- No key stands twice. -/
theorem nodup_keys (d : Dict α) : d.keys.Nodup := by
  unfold keys List.Nodup
  refine List.pairwise_map.2 (d.ascending.imp fun h he ↦ ?_)
  rw [he] at h
  exact String.lt_irrefl _ h

end Dict

end ContainerBuild
