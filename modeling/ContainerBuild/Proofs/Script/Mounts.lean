import ContainerBuild.Proofs.Script.Layout
import ContainerBuild.Proofs.Config.Resolved

/-!
# Mounts in front of a command

The arguments of an instruction that runs a command begin with the mounts that the command
sees. Each of them is one word, and so they can be split off again. The installation of
dependencies is put together from mounts and a command; neither the path of a lock file nor the
name of a secret has a blank, so that splitting gives back exactly these two.
-/

namespace ContainerBuild.Script

open Text (isBlank)

/-- What a mount begins with. -/
def mountLead : List Char := "--mount=".toList

private theorem mountLead_append (s : List Char) :
    mountLead ++ s = '-' :: ("-mount=".toList ++ s) := rfl

/-- The mounts in front of a command, and the command behind them. -/
def splitMounts (args : List Char) : List (List Char) × List Char :=
  if mountLead.isPrefixOf args then
    let (mounts, command) := splitMounts ((args.dropWhile (!isBlank ·)).dropWhile isBlank)
    (args.takeWhile (!isBlank ·) :: mounts, command)
  else ([], args)
termination_by args.length
decreasing_by
  next h =>
    obtain ⟨rest, rfl⟩ := List.isPrefixOf_iff_prefix.mp h
    rw [mountLead_append, List.dropWhile_cons_of_pos (by decide), List.length_cons,
      Nat.lt_succ_iff]
    exact ((List.dropWhile_suffix _).trans (List.dropWhile_suffix _)).length_le

/-- A text that is one mount. -/
def IsMount (mount : String) : Prop :=
  mountLead <+: mount.toList ∧ ∀ c ∈ mount.toList, isBlank c = false

/-- A text that a command may begin with, right behind a blank. -/
def IsCommand (s : List Char) : Prop := ∃ c rest, s = c :: rest ∧ isBlank c = false ∧ c ≠ '-'

instance (mount : String) : Decidable (IsMount mount) :=
  decidable_of_iff (mountLead.isPrefixOf mount.toList = true ∧
    mount.toList.all (!isBlank ·) = true) (by simp [IsMount])

variable {mount : String} {mounts : List String} {s : List Char}

private theorem IsMount.exists_eq_cons (h : IsMount mount) :
    ∃ rest, mount.toList = '-' :: rest := by
  obtain ⟨rest, hrest⟩ := h.1
  exact ⟨_, hrest.symm.trans (mountLead_append rest)⟩

/-- Words are a command when the first of them is. -/
theorem isCommand_intercalate {word : String} (h : IsCommand word.toList) (words : List String) :
    IsCommand (" ".intercalate (word :: words)).toList := by
  cases words with
  | nil => rwa [String.intercalate_singleton]
  | cons next words =>
    obtain ⟨c, rest, hs, hc⟩ := h
    rw [String.intercalate_cons_cons, String.toList_append, String.toList_append, hs]
    exact ⟨c, _, rfl, hc⟩

/-- In front of a command without mounts, there are none to split off. -/
theorem IsCommand.splitMounts_eq (h : IsCommand s) : splitMounts s = ([], s) := by
  obtain ⟨c, rest, rfl, -, hc⟩ := h
  have hlead : mountLead.isPrefixOf (c :: rest) = false := by
    have : ('-' == c) = false := by simpa using Ne.symm hc
    rw [← List.append_nil mountLead, mountLead_append, List.isPrefixOf_cons_cons, this,
      Bool.false_and]
  rw [splitMounts, hlead, if_neg Bool.false_ne_true]

private theorem IsMount.splitMounts_append (h : IsMount mount) (hs : ∃ c rest, s = c :: rest ∧
    isBlank c = false) :
    splitMounts (mount.toList ++ ' ' :: s) =
      (mount.toList :: (splitMounts s).1, (splitMounts s).2) := by
  obtain ⟨c, rest, rfl, hc⟩ := hs
  have hword : ∀ x ∈ mount.toList, (!isBlank x) = true := by simpa using h.2
  have hbehind : ((mount.toList ++ ' ' :: c :: rest).dropWhile (!isBlank ·)).dropWhile isBlank =
      c :: rest := by
    rw [List.dropWhile_append_of_pos hword, List.dropWhile_cons_of_neg (by decide),
      List.dropWhile_cons_of_pos (by decide), List.dropWhile_cons_of_neg (by simp [hc])]
  have hfront : (mount.toList ++ ' ' :: c :: rest).takeWhile (!isBlank ·) = mount.toList := by
    rw [List.takeWhile_append_of_pos hword, List.takeWhile_cons_of_neg (by decide),
      List.append_nil]
  rw [splitMounts, if_pos (List.isPrefixOf_iff_prefix.mpr (List.prefix_append_of_prefix h.1)),
    hbehind, hfront]

/-- Mounts are split off a command, all of them and nothing else. -/
theorem splitMounts_intercalate {words : List String} (hm : ∀ mount ∈ mounts, IsMount mount)
    (hw : IsCommand (" ".intercalate words).toList) :
    splitMounts (" ".intercalate (mounts ++ words)).toList =
      (mounts.map String.toList, (" ".intercalate words).toList) := by
  have hne : words ≠ [] := by
    rintro rfl
    obtain ⟨c, rest, hs, -⟩ := hw
    cases hs
  induction mounts with
  | nil => exact hw.splitMounts_eq
  | cons mount mounts ih =>
    have hrest := ih fun x hx ↦ hm x (List.mem_cons_of_mem _ hx)
    have hbare : ∃ c rest, (" ".intercalate (mounts ++ words)).toList = c :: rest ∧
        isBlank c = false := by
      cases mounts with
      | nil =>
        obtain ⟨c, rest, hs, hc, -⟩ := hw
        exact ⟨c, rest, hs, hc⟩
      | cons next others =>
        obtain ⟨rest, hnext⟩ := (hm next (by simp)).exists_eq_cons
        rw [List.cons_append, String.intercalate_cons_of_ne_nil (by simp [hne]),
          String.toList_append, String.toList_append, hnext]
        exact ⟨'-', _, rfl, rfl⟩
    rw [List.cons_append, String.intercalate_cons_of_ne_nil (by simp [hne]),
      String.toList_append, String.toList_append, List.append_assoc,
      show " ".toList = [' '] from rfl, List.singleton_append,
      (hm mount List.mem_cons_self).splitMounts_append hbare, hrest]
    rfl

/-! ## The installation of dependencies -/

/-- The secrets of indices are those of each of them. -/
theorem mem_secretIds {indices : List PackageIndex} {id : String} :
    id ∈ secretIds indices ↔ ∃ i ∈ indices, id ∈ i.secretIds := by
  rw [secretIds, List.mem_eraseDups, List.mem_flatMap]

variable {m : Manifest} {t : Target} {ctx : Context} {c : Config}

/-- The mounts of the installation of dependencies. -/
def mountsOf (c : Config) : List String :=
  cacheMount :: (c.requirements.map lockMount).toList ++
    (secretIds c.indices).map secretMount ++ (if c.transport.ssh then [sshMount] else [])

/-- The words of the installation of dependencies behind its mounts. -/
def commandOf (c : Config) (options : List String) : List String :=
  (if c.transport.ssh then [sshCommand] else []) ++
    ["python -m pip install --user --retries 2"] ++ options ++ installSubjects c

/-- The installation of dependencies is a command behind mounts. -/
theorem installArgs_eq (c : Config) (options : List String) :
    installArgs c options = " ".intercalate (mountsOf c ++ commandOf c options) := by
  rw [installArgs, installMounts, mountsOf, commandOf]
  split <;> simp

private theorem IsMount.append {a b : String} (ha : IsMount a)
    (hb : ∀ c ∈ b.toList, isBlank c = false) :
    IsMount (a ++ b) := by
  rw [IsMount, String.toList_append]
  refine ⟨List.prefix_append_of_prefix ha.1, fun c hc ↦ ?_⟩
  rcases List.mem_append.mp hc with hc | hc
  · exact ha.2 c hc
  · exact hb c hc

/-- The mounts of a resolved configuration are one word each. -/
theorem isMount_of_mem_mountsOf (h : c.Admits m t ctx) (hm : mount ∈ mountsOf c) :
    IsMount mount := by
  simp only [mountsOf, List.cons_append, List.mem_cons, List.mem_append, List.mem_map,
    Option.mem_toList, Option.map_eq_some_iff] at hm
  rcases hm with rfl | (⟨path, hpath, rfl⟩ | ⟨id, hid, rfl⟩) | hm
  · decide
  · have hlead : IsMount "--mount=type=bind,source=" := by decide
    have htarget : IsMount ("--mount=type=bind,source=" ++ path ++ ",target=") :=
      (hlead.append (h.isBlank_of_mem_requirements hpath)).append
        (Text.isBlank_of_all (by decide))
    exact htarget.append (Text.isBlank_of_all (by decide))
  · have hlead : IsMount "--mount=type=secret,id=" := by decide
    obtain ⟨i, hi, hid⟩ := mem_secretIds.mp hid
    exact hlead.append fun char hchar ↦ Config.isBlank_of_isSecretIdChar
      (h.isSecretIdChar_of_mem_secretIds hi hid char hchar)
  · split at hm
    · obtain rfl := List.mem_singleton.mp hm
      decide
    · cases hm

private theorem isCommand_commandOf (c : Config) (options : List String) :
    IsCommand (" ".intercalate (commandOf c options)).toList := by
  rw [commandOf]
  split
  · exact isCommand_intercalate ⟨'G', _, rfl, rfl, by decide⟩ _
  · exact isCommand_intercalate ⟨'p', _, rfl, rfl, by decide⟩ _

/-- Splitting the mounts off the installation of dependencies leaves its command. -/
theorem splitMounts_installArgs (h : c.Admits m t ctx) (options : List String) :
    splitMounts (installArgs c options).toList =
      ((mountsOf c).map String.toList, (" ".intercalate (commandOf c options)).toList) := by
  rw [installArgs_eq]
  exact splitMounts_intercalate (fun _ hm ↦ isMount_of_mem_mountsOf h hm)
    (isCommand_commandOf c options)

end ContainerBuild.Script
