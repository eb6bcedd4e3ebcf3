import ContainerBuild.Files
import ContainerBuild.Proofs.Text.Words

/-!
# Paths that stay inside a directory

A path is a sequence of components. Its normal form is found by taking them one after the other,
where a parent takes back the name in front of it. The path of a lock file without a flaw has
neither a root nor a parent among its components, so below whatever directory it is looked up,
the normal form of the directory is only extended by names.
-/

namespace ContainerBuild.LockPath

/-- What a path is made of: the root of the file system, the directory where it starts, the
directory above, and names. -/
inductive Component where
  | root
  | here
  | parent
  | name (text : List Char)
deriving DecidableEq

/-- The component that a part between slashes stands for. Repeated slashes and single dots stand
for none. -/
def component? (part : List Char) : Option Component :=
  if part = [] ∨ part = ['.'] then none
  else if part = ['.', '.'] then some .parent
  else some (.name part)

/-- The component in front of the parts: the root of an absolute path, or the dot with which a
path begins. -/
def lead (path : List Char) : List Component :=
  if path.head? = some '/' then [.root]
  else if (path.splitOn '/').head? = some ['.'] then [.here]
  else []

/-- The components of a path from left to right. -/
def components (path : List Char) : List Component :=
  lead path ++ (path.splitOn '/').filterMap component?

/-- Takes one more component behind those of a path in normal form. There is nothing above the
root, and what is above a path without names stays open. -/
def advance (done : List Component) : Component → List Component
  | .root => [.root]
  | .here => done
  | .name text => done ++ [.name text]
  | .parent =>
    match done.getLast? with
    | some (.name _) => done.dropLast
    | some .root => done
    | _ => done ++ [.parent]

/-- The normal form of a path, which does not look at any file. -/
def normalize (path : String) : List Component := (components path.toList).foldl advance []

/-- What a component does to the path of a lock file. -/
def Component.flaw? : Component → Option LockPathFlaw
  | .root => some .absolute
  | .parent => some .parent
  | .here | .name _ => none

/-- What is asked of the path of a lock file: it is relative, below every directory its normal
form is that of the directory and names behind it, and in a list of options it is one item. -/
structure IsInside (path : String) : Prop where
  relative : path.toList.head? ≠ some '/'
  below : ∀ c : FileContext, ∃ names : List (List Char),
    normalize (c.pathOf path) = normalize c.root ++ names.map .name
  plain : ∀ char ∈ path.toList,
    char ≠ ',' ∧ char ≠ '"' ∧ char ≠ '\'' ∧ Text.isBlank char = false

variable {path : String} {dir s : List Char}

/-! ## Flaws by component -/

private theorem findSome?_parts (parts : List (List Char)) :
    (parts.filterMap component?).findSome? Component.flaw? =
      if parts.contains ['.', '.'] then some .parent else none := by
  induction parts with
  | nil => rfl
  | cons part rest ih =>
    rw [List.contains_cons, List.filterMap_cons, component?]
    by_cases hnone : part = [] ∨ part = ['.']
    · have hne : (['.', '.'] == part) = false := by
        rcases hnone with rfl | rfl <;> rfl
      rw [if_pos hnone, hne, Bool.false_or]
      exact ih
    · rw [if_neg hnone]
      by_cases hdots : part = ['.', '.']
      · rw [if_pos hdots, hdots]
        rfl
      · have hne : (['.', '.'] == part) = false := beq_false_of_ne (Ne.symm hdots)
        rw [if_neg hdots, hne, Bool.false_or]
        exact ih

private theorem flaw?_eq (path : String) :
    flaw? path = if path.toList.any isSeparator then some .separators
      else (components path.toList).findSome? Component.flaw? := by
  rw [flaw?, components, List.findSome?_append, findSome?_parts, lead]
  split
  · rfl
  · split
    · rfl
    · split <;> split <;> rfl

/-- A path has no flaw when no character is a separator and no component is a root or a parent. -/
theorem flaw?_eq_none_iff :
    flaw? path = none ↔ (∀ char ∈ path.toList, isSeparator char = false) ∧
      ∀ part ∈ components path.toList, part.flaw? = none := by
  rw [flaw?_eq, ← List.findSome?_eq_none_iff]
  by_cases h : path.toList.any isSeparator = true
  · rw [if_pos h]
    refine iff_of_false (by simp) fun hnone ↦ ?_
    obtain ⟨char, hchar, hsep⟩ := List.any_eq_true.mp h
    rw [hnone.1 char hchar] at hsep
    cases hsep
  · rw [if_neg h, iff_and_self]
    intro _ char hchar
    simpa using fun hsep ↦ h (List.any_eq_true.mpr ⟨char, hchar, hsep⟩)

/-! ## Normal forms -/

private theorem foldl_advance {parts : List Component} (h : ∀ part ∈ parts, part.flaw? = none)
    (done : List Component) :
    ∃ names : List (List Char), parts.foldl advance done = done ++ names.map .name := by
  induction parts generalizing done with
  | nil => exact ⟨[], (List.append_nil done).symm⟩
  | cons part rest ih =>
    obtain ⟨hpart, hrest⟩ := List.forall_mem_cons.mp h
    cases part with
    | root => cases hpart
    | parent => cases hpart
    | here => exact ih hrest done
    | name text =>
      obtain ⟨names, hnames⟩ := ih hrest (done ++ [.name text])
      exact ⟨text :: names, by rw [List.foldl_cons, advance, hnames]; simp⟩

private theorem components_append_slash (dir s : List Char) :
    components (dir ++ '/' :: s) =
      components (dir ++ ['/']) ++ (s.splitOn '/').filterMap component? := by
  have hsplit (s : List Char) :
      (dir ++ '/' :: s).splitOn '/' = dir.splitOn '/' ++ s.splitOn '/' :=
    List.splitOnP_append_cons dir s (beq_self_eq_true '/')
  have hlead : lead (dir ++ '/' :: s) = lead (dir ++ ['/']) := by
    rw [lead, lead, hsplit, hsplit, List.head?_append_of_ne_nil _ (List.splitOn_ne_nil '/' dir),
      List.head?_append_of_ne_nil _ (List.splitOn_ne_nil '/' dir), List.head?_append,
      List.head?_append]
    rfl
  rw [components, components, hlead, hsplit, hsplit, List.filterMap_append, List.filterMap_append]
  simp [component?]

private theorem components_append_slash_nil (h : dir ≠ []) :
    components (dir ++ ['/']) = components dir := by
  have hsplit : (dir ++ ['/']).splitOn '/' = dir.splitOn '/' ++ [[]] :=
    List.splitOnP_append_cons dir [] (beq_self_eq_true '/')
  have hlead : lead (dir ++ ['/']) = lead dir := by
    rw [lead, lead, hsplit, List.head?_append_of_ne_nil _ (List.splitOn_ne_nil '/' dir),
      List.head?_append_of_ne_nil _ h]
  rw [components, components, hlead, hsplit, List.filterMap_append]
  simp [component?]

private theorem exists_components_pathOf (c : FileContext) (h : path.toList.head? ≠ some '/') :
    ∃ own, components (c.pathOf path).toList = components c.root.toList ++ own ∧
      ∀ part ∈ own, part ∈ components path.toList := by
  have hmem : ∀ part ∈ (path.toList.splitOn '/').filterMap component?,
      part ∈ components path.toList := fun part hpart ↦ List.mem_append_right _ hpart
  by_cases hroot : c.root = ""
  · refine ⟨components path.toList, ?_, fun part hpart ↦ hpart⟩
    rw [FileContext.pathOf, if_pos (by simp [hroot]), hroot]
    rfl
  · have hne : c.root.toList ≠ [] := by simpa using hroot
    refine ⟨_, ?_, hmem⟩
    rw [FileContext.pathOf, if_neg (by simp [hroot, h])]
    split
    · next hlast =>
      obtain ⟨dir, hdir⟩ := List.getLast?_eq_some_iff.mp hlast
      rw [String.toList_append, hdir, List.append_assoc, List.singleton_append,
        components_append_slash]
    · have hslash : ("/" : String).toList = ['/'] := rfl
      rw [String.toList_append, String.toList_append, hslash, List.append_assoc,
        List.singleton_append, components_append_slash, components_append_slash_nil hne]

/-- The path of a lock file without a flaw stays inside of every directory. -/
theorem isInside_of_flaw? (h : flaw? path = none) : IsInside path := by
  obtain ⟨hplain, hparts⟩ := flaw?_eq_none_iff.mp h
  have hrelative : path.toList.head? ≠ some '/' := by
    intro hhead
    have hroot : Component.root ∈ components path.toList := by
      rw [components, lead, if_pos hhead]
      exact List.mem_append_left _ List.mem_cons_self
    cases hparts _ hroot
  refine ⟨hrelative, fun c ↦ ?_, fun char hchar ↦ ?_⟩
  · obtain ⟨own, hown, hsub⟩ := exists_components_pathOf c hrelative
    obtain ⟨names, hnames⟩ :=
      foldl_advance (fun part hpart ↦ hparts part (hsub part hpart)) (normalize c.root)
    exact ⟨names, by rw [normalize, hown, List.foldl_append, ← normalize, hnames]⟩
  · have hsep := hplain char hchar
    simpa [isSeparator, and_assoc] using hsep

end ContainerBuild.LockPath
