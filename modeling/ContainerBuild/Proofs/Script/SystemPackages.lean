import ContainerBuild.Packages
import ContainerBuild.Proofs.Script.Mounts
import ContainerBuild.Proofs.Shell.Commands

/-!
# What a shell reads in the installation of system packages

Behind the mounts of its caches, a shell finds one command that installs the packages, each as a
word of its own. For one flavor, commands that make the package lists ready stand in front of it,
and in the final image a command that drops these lists stands behind it. None of these calls the
installer for packages of its own.
-/

namespace ContainerBuild

namespace Shell

/-- A word of a chain of commands, which a conjunction joins. -/
def chainToken (word : String) : Token := if word = "&&" then .operator ['&', '&'] else .bare word

private theorem reads_chainToken {word : String} (h : word = "&&" ∨ isPlainWord word = true) :
    Reads word.toList [chainToken word] := by
  rw [chainToken]
  split
  · next hand =>
    rw [hand]
    exact reads_conjunction
  · next hand => exact reads_plain (h.resolve_left hand)

end Shell

namespace Script

open Shell

variable {flavor : Flavor} {packages : List String} {package : String}

/-- The words of a flavor that install packages. -/
def installerWords : Flavor → List String
  | .debian => ["apt-get", "install", "-y", "--no-install-recommends"]
  | .alpine => ["apk", "add", "--update-cache"]

/-- The instruction with the given arguments installs a package: behind its mounts, a shell reads
a command that names the package to the installer of the flavor, which comes first or behind a
conjunction. -/
def Installs (flavor : Flavor) (args package : String) : Prop :=
  ∃ (before : List Token) (packages : List String),
    read? (splitMounts args.toList).2 =
      some (before ++ (installerWords flavor).map .bare ++ packages.map .quoted) ∧
    (∀ token ∈ before.getLast?, token = .operator ['&', '&']) ∧ package ∈ packages

/-- The mounts of the caches of a flavor. -/
def packageMounts : Flavor → List String
  | .debian =>
    ["--mount=type=cache,target=/var/cache/apt,sharing=locked",
     "--mount=type=cache,target=/var/lib/apt,sharing=locked"]
  | .alpine => [Packages.apkMount]

/-- The words of a flavor in front of those that install packages. -/
def preparationWords : Flavor → List String
  | .debian => ["rm", "-f", "/etc/apt/apt.conf.d/docker-clean", "&&", "apt-get", "update", "&&"]
  | .alpine => []

private theorem cachedInstall_eq (flavor : Flavor) (packages : List String) :
    Packages.cachedInstall flavor packages =
      " ".intercalate (packageMounts flavor ++ (preparationWords flavor ++ installerWords flavor ++
        [Quote.shellWords packages])) := by
  have hwords {lead : String} (h : lead = " ".intercalate
      (packageMounts flavor ++ (preparationWords flavor ++ installerWords flavor)) ++ " ") :
      lead ++ Quote.shellWords packages = " ".intercalate (packageMounts flavor ++
        (preparationWords flavor ++ installerWords flavor ++ [Quote.shellWords packages])) := by
    have hne : packageMounts flavor ++ (preparationWords flavor ++ installerWords flavor) ≠ [] := by
      cases flavor <;> simp [packageMounts]
    have hsplit := @String.intercalate_append_of_ne_nil _ [Quote.shellWords packages] " " hne
      (List.cons_ne_nil _ _)
    rw [String.intercalate_singleton] at hsplit
    rw [h, ← hsplit, List.append_assoc]
  cases flavor with
  | debian => exact hwords (by decide +kernel)
  | alpine => exact hwords (by decide +kernel)

private theorem isPlainWord_installerWords (flavor : Flavor) :
    ∀ word ∈ installerWords flavor, isPlainWord word = true := by
  cases flavor <;> decide

/-- Words of a chain around an installation read as they are written, and the packages as one word
each. -/
theorem reads_installation {before behind : List String}
    (hbefore : ∀ word ∈ before, word = "&&" ∨ isPlainWord word = true)
    (hbehind : ∀ word ∈ behind, word = "&&" ∨ isPlainWord word = true) :
    Reads (" ".intercalate (before ++ installerWords flavor ++ [Quote.shellWords packages] ++
        behind)).toList
      (before.map chainToken ++ (installerWords flavor).map .bare ++ packages.map .quoted ++
        behind.map chainToken) := by
  have hwords {words : List String} {token : String → Token}
      (h : ∀ word ∈ words, Reads word.toList [token word]) :
      List.Forall₂ Reads (words.map String.toList) (words.map ([token ·])) := by
    rw [List.forall₂_map_left_iff, List.forall₂_map_right_iff, List.forall₂_same]
    exact h
  have hfront := hwords fun word hword ↦ reads_chainToken (hbefore word hword)
  have hinstaller := hwords fun word hword ↦
    reads_plain (isPlainWord_installerWords flavor word hword)
  have hback := hwords fun word hword ↦ reads_chainToken (hbehind word hword)
  have hall : List.Forall₂ Reads
      ((before ++ installerWords flavor ++ [Quote.shellWords packages] ++ behind).map
        String.toList)
      (before.map ([chainToken ·]) ++ (installerWords flavor).map ([.bare ·]) ++
        [packages.map .quoted] ++ behind.map ([chainToken ·])) := by
    simp only [List.map_append]
    apply List.rel_append (List.rel_append (List.rel_append hfront hinstaller) _) hback
    exact .cons (reads_shellWords packages) .nil
  rw [String.toList_intercalate]
  simpa [← List.flatMap_def, ← List.map_eq_flatMap] using Reads.intercalate hall

/-- The mounts in front of an installation are those of the caches. -/
theorem splitMounts_cachedInstall (flavor : Flavor) (packages : List String) :
    splitMounts (Packages.cachedInstall flavor packages).toList =
      ((packageMounts flavor).map String.toList,
        (" ".intercalate (preparationWords flavor ++ installerWords flavor ++
          [Quote.shellWords packages])).toList) := by
  have hmounts : ∀ mount ∈ packageMounts flavor, IsMount mount := by
    cases flavor with
    | debian => decide
    | alpine => decide
  rw [cachedInstall_eq]
  apply splitMounts_intercalate hmounts
  cases flavor with
  | debian => exact isCommand_intercalate ⟨'r', _, rfl, rfl, by decide⟩ _
  | alpine => exact isCommand_intercalate ⟨'a', _, rfl, rfl, by decide⟩ _

/-- Behind the mounts, the installer of a flavor gets the packages, one word each. -/
theorem read_cachedInstall (flavor : Flavor) (packages : List String) :
    read? (splitMounts (Packages.cachedInstall flavor packages).toList).2 =
      some ((preparationWords flavor).map chainToken ++ (installerWords flavor).map .bare ++
        packages.map .quoted) := by
  have hread := @reads_installation flavor packages (preparationWords flavor) []
    (by cases flavor <;> decide) (List.forall_mem_nil _)
  rw [List.append_nil, List.map_nil, List.append_nil] at hread
  rw [splitMounts_cachedInstall]
  exact hread.read?

/-- Of several packages each is installed. -/
theorem installs_cachedInstall (h : package ∈ packages) :
    Installs flavor (Packages.cachedInstall flavor packages) package := by
  refine ⟨(preparationWords flavor).map chainToken, packages, read_cachedInstall _ _, ?_, h⟩
  cases flavor with
  | debian => exact fun _ h ↦ (Option.some.inj h).symm
  | alpine => exact fun _ h ↦ by cases h

/-! ## The final image -/

/-- The words of a flavor in front of those that install packages of the final image. -/
def updateWords : Flavor → List String
  | .debian => ["apt-get", "update", "&&"]
  | .alpine => []

/-- The words that drop the package lists of a flavor. -/
def cleaningWords : Flavor → List String
  | .debian => ["&&", "rm", "-rf", "/var/lib/apt/lists/*"]
  | .alpine => ["&&", "rm", "-rf", "/var/cache/apk/*"]

/-- Packages of the final image are installed by the words of a flavor, without mounts. -/
theorem runtimeInstall_eq (flavor : Flavor) (h : packages ≠ []) :
    Packages.runtimeInstall flavor packages =
      some (" ".intercalate (updateWords flavor ++ installerWords flavor ++
        [Quote.shellWords packages] ++ cleaningWords flavor)) := by
  have hwords {lead trail : String}
      (hlead : lead = " ".intercalate (updateWords flavor ++ installerWords flavor) ++ " ")
      (htrail : trail = " " ++ " ".intercalate (cleaningWords flavor)) :
      lead ++ Quote.shellWords packages ++ trail = " ".intercalate (updateWords flavor ++
        installerWords flavor ++ [Quote.shellWords packages] ++ cleaningWords flavor) := by
    have hfront : updateWords flavor ++ installerWords flavor ≠ [] := by
      cases flavor <;> simp [installerWords]
    have hback : cleaningWords flavor ≠ [] := by
      cases flavor <;> simp [cleaningWords]
    rw [String.intercalate_append_of_ne_nil (by simp) hback,
      String.intercalate_append_of_ne_nil hfront (List.cons_ne_nil _ _),
      String.intercalate_singleton, hlead, htrail]
    simp only [String.append_assoc]
  have hsome : packages.isEmpty = false := List.isEmpty_eq_false_iff.mpr h
  cases flavor with
  | debian =>
    rw [Packages.runtimeInstall, hsome]
    exact congrArg some (hwords (by decide +kernel) (by decide +kernel))
  | alpine =>
    rw [Packages.runtimeInstall, hsome]
    exact congrArg some (hwords (by decide +kernel) (by decide +kernel))

/-- In the final image, the installer of a flavor gets the packages, one word each. -/
theorem read_runtimeInstall {command : String}
    (h : Packages.runtimeInstall flavor packages = some command) :
    splitMounts command.toList = ([], command.toList) ∧
      read? command.toList =
        some ((updateWords flavor).map chainToken ++ (installerWords flavor).map .bare ++
          packages.map .quoted ++ (cleaningWords flavor).map chainToken) := by
  have hne : packages ≠ [] := by
    rintro rfl
    cases h
  rw [runtimeInstall_eq flavor hne] at h
  rw [← Option.some.inj h]
  constructor
  · apply IsCommand.splitMounts_eq
    cases flavor with
    | debian => exact isCommand_intercalate ⟨'a', _, rfl, rfl, by decide⟩ _
    | alpine => exact isCommand_intercalate ⟨'a', _, rfl, rfl, by decide⟩ _
  · have hread := @reads_installation flavor packages (updateWords flavor) (cleaningWords flavor)
      (by cases flavor <;> decide) (by cases flavor <;> decide)
    exact hread.read?

/-! ## The packages as the installer gets them -/

/-- A shell that reads a command calls the installer of a flavor once. It gives it the words of the
flavor and behind them exactly the packages, each as one word in which nothing is expanded. None of
the other commands that conjunctions join calls the installer. -/
def CallsInstaller (flavor : Flavor) (command : List Char) (packages : List String) : Prop :=
  ∃ tokens before behind, read? command = some tokens ∧
    commands tokens = before ++ (installerWords flavor ++ packages).map some :: behind ∧
    ∀ other ∈ before ++ behind, ¬(installerWords flavor).map some <+: other

private theorem commands_installer (flavor : Flavor) (packages : List String) :
    commands ((installerWords flavor).map .bare ++ packages.map .quoted) =
      [(installerWords flavor ++ packages).map some] := by
  have hinert : ∀ word ∈ installerWords flavor, word.toList.all isInert = true := by
    cases flavor <;> decide
  have hwords : ((installerWords flavor).map .bare).map Token.text? =
      (installerWords flavor).map some := by
    rw [List.map_map]
    exact List.map_congr_left fun word hword ↦ text?_bare (hinert word hword)
  rw [commands_eq_singleton, List.map_append, List.map_append, hwords, List.map_map]
  · simp [Function.comp_def]
  · simp only [List.mem_append, List.mem_map]
    rintro token (⟨word, -, rfl⟩ | ⟨package, -, rfl⟩) <;> rfl

/-- The installer is called once when the commands around it are none of the installer. -/
theorem callsInstaller_of_read {command : List Char} {front back : List Token}
    {before behind : List (List (Option String))}
    (hread : read? command =
      some (front ++ (installerWords flavor).map .bare ++ packages.map .quoted ++ back))
    (hfront : ∀ rest, commands (front ++ rest) = before ++ commands rest)
    (hback : ∀ rest, commands (rest ++ back) = commands rest ++ behind)
    (hother : ∀ other ∈ before ++ behind, ¬(installerWords flavor).map some <+: other) :
    CallsInstaller flavor command packages := by
  refine ⟨_, before, behind, hread, ?_, hother⟩
  rw [hback, List.append_assoc, hfront, commands_installer, List.append_assoc,
    List.singleton_append]

private theorem commands_nil_append (rest : List Token) :
    commands ([] ++ rest) = [] ++ commands rest := rfl

private theorem callsInstaller_cachedInstall (flavor : Flavor) (packages : List String) :
    CallsInstaller flavor (splitMounts (Packages.cachedInstall flavor packages).toList).2
      packages := by
  have hread := read_cachedInstall flavor packages
  rw [← List.append_nil (_ ++ packages.map Token.quoted)] at hread
  have hback (rest : List Token) : commands (rest ++ []) = commands rest ++ [] := by
    rw [List.append_nil, List.append_nil]
  cases flavor with
  | debian =>
    let words := ["rm", "-f", "/etc/apt/apt.conf.d/docker-clean", "&&", "apt-get", "update"]
    have hfront (rest : List Token) : commands ((preparationWords .debian).map chainToken ++ rest) =
        commands (words.map chainToken) ++ commands rest :=
      commands_append_conjunction (words.map chainToken) rest
    exact callsInstaller_of_read hread hfront hback (by decide)
  | alpine => exact callsInstaller_of_read hread commands_nil_append hback (by decide)

private theorem callsInstaller_runtimeInstall {command : String}
    (h : Packages.runtimeInstall flavor packages = some command) :
    CallsInstaller flavor (splitMounts command.toList).2 packages := by
  obtain ⟨hsplit, hread⟩ := read_runtimeInstall h
  rw [hsplit]
  have hback (rest : List Token) : commands (rest ++ (cleaningWords flavor).map chainToken) =
      commands rest ++ commands ((cleaningWords flavor).tail.map chainToken) := by
    cases flavor with
    | debian => exact commands_append_conjunction rest _
    | alpine => exact commands_append_conjunction rest _
  cases flavor with
  | debian =>
    have hfront (rest : List Token) : commands ((updateWords .debian).map chainToken ++ rest) =
        commands (["apt-get", "update"].map chainToken) ++ commands rest :=
      commands_append_conjunction (["apt-get", "update"].map chainToken) rest
    exact callsInstaller_of_read hread hfront hback (by decide)
  | alpine => exact callsInstaller_of_read hread commands_nil_append hback (by decide)

/-- Quoted texts with spaces between them are read as these texts, each as one word in which nothing
is expanded. So the packages for the build, behind the mounts of the caches, and those of the final
image, without mounts, are what the installer of a flavor is called with; without packages it is
not called. -/
theorem callsInstaller_packages (packages : List String) :
    (read? (Quote.shellWords packages).toList).map (·.map Token.text?) =
        some (packages.map some) ∧
      ∀ flavor,
        (packages = [] → Packages.buildInstall flavor packages = none ∧
          Packages.runtimeInstall flavor packages = none) ∧
        (packages ≠ [] → ∃ build runtime, Packages.buildInstall flavor packages = some build ∧
          Packages.runtimeInstall flavor packages = some runtime ∧
          (splitMounts build.toList).1 = (packageMounts flavor).map String.toList ∧
          CallsInstaller flavor (splitMounts build.toList).2 packages ∧
          (splitMounts runtime.toList).1 = [] ∧
          CallsInstaller flavor (splitMounts runtime.toList).2 packages) := by
  refine ⟨texts_read_shellWords packages, fun flavor ↦ ⟨?_, fun h ↦ ?_⟩⟩
  · rintro rfl
    cases flavor <;> exact ⟨rfl, rfl⟩
  · have hbuild : Packages.buildInstall flavor packages =
        some (Packages.cachedInstall flavor packages) := by
      rw [Packages.buildInstall, List.isEmpty_eq_false_iff.mpr h, if_neg Bool.false_ne_true]
    have hruntime := runtimeInstall_eq flavor h
    refine ⟨_, _, hbuild, hruntime, ?_, callsInstaller_cachedInstall flavor packages, ?_,
      callsInstaller_runtimeInstall hruntime⟩
    · rw [splitMounts_cachedInstall]
    · rw [(read_runtimeInstall hruntime).1]

/-- Packages with every kind of quote, a command, a blank, an option and no characters at all. -/
theorem callsInstaller_packages_quotes :
    let packages := ["it's", "'", "a \"b\" && $(id)", "--option", "\\", ""]
    packages ≠ [] ∧ ∃ build runtime,
      Packages.buildInstall .alpine packages = some build ∧
        Packages.runtimeInstall .debian packages = some runtime ∧
        CallsInstaller .alpine (splitMounts build.toList).2 packages ∧
        CallsInstaller .debian (splitMounts runtime.toList).2 packages := by
  intro packages
  have hne : packages ≠ [] := List.cons_ne_nil _ _
  have h := (callsInstaller_packages packages).2
  obtain ⟨build, -, hbuild, -, -, hcalls, -⟩ := (h .alpine).2 hne
  obtain ⟨-, runtime, -, hruntime, -, -, -, hcalls'⟩ := (h .debian).2 hne
  exact ⟨hne, build, runtime, hbuild, hruntime, hcalls, hcalls'⟩

end Script

end ContainerBuild
