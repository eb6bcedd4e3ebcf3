import ContainerBuild.Proofs.Script.Installation
import ContainerBuild.Proofs.Script.SystemPackages

/-!
# Mounts and tools of the installation

The installation of dependencies sees what its command uses: the lock file that it reads, one
secret for each that a substituted command reads, and the keys for a secure shell. The tools that
the command calls on the way are installed by an instruction before it.
-/

namespace ContainerBuild.Script

open Shell

variable {m : Manifest} {requested : Option String} {ctx : Context} {c : Config} {t : Target}
  {params : Dict String} {script : Script} {id package : String} {urls : List Url}

/-! ## Mounts -/

/-- The fields of a mount, which stand between commas. -/
def mountFields (mount : List Char) : List String :=
  ((mount.drop mountLead.length).splitOn ',').map String.ofList

/-- What a mount begins with, as it is written. -/
theorem mountLead_eq : mountLead = "--mount=".toList := rfl

/-- The mount of a lock file, as it is written. -/
theorem lockMount_eq (path : String) :
    lockMount path = "--mount=type=bind,source=" ++ path ++ ",target=" ++ "/tmp/requirements.txt" :=
  rfl

/-- The mount of a secret, as it is written. -/
theorem secretMount_eq (id : String) : secretMount id = "--mount=type=secret,id=" ++ id := rfl

/-- Fields without commas are read back from a mount. -/
theorem mountFields_eq {mount : List Char} {fields : List String} (hne : fields ≠ [])
    (hmount : mount = mountLead ++ [','].intercalate (fields.map String.toList))
    (h : ∀ field ∈ fields, ',' ∉ field.toList) : mountFields mount = fields := by
  rw [mountFields, hmount, List.drop_left, List.splitOn_intercalate, List.map_map]
  · simp [Function.comp_def]
  · rwa [List.forall_mem_map]
  · simpa using hne

private theorem mountFields_lockMount {path : String} (h : ',' ∉ path.toList) :
    mountFields (lockMount path).toList =
      ["type=bind", "source=" ++ path, "target=/tmp/requirements.txt"] := by
  refine mountFields_eq (List.cons_ne_nil _ _) ?_ ?_
  · simp [lockMount_eq, mountLead_eq]
  · simp [h]

private theorem mountFields_secretMount (h : ',' ∉ id.toList) :
    mountFields (secretMount id).toList = ["type=secret", "id=" ++ id] := by
  refine mountFields_eq (List.cons_ne_nil _ _) ?_ ?_
  · simp [secretMount_eq, mountLead_eq]
  · simp [h]

private theorem mountFields_fixed :
    mountFields cacheMount.toList = ["type=cache", "target=/root/.cache"] ∧
      mountFields sshMount.toList = ["type=ssh", "required=true"] := by
  decide +kernel

private theorem comma_not_mem_of_isSecretIdChar
    (h : ∀ char ∈ id.toList, isSecretIdChar char = true) :
    ',' ∉ id.toList := fun hmem ↦ by cases h _ hmem

private theorem comma_not_mem_of_flaw? {path : String} (h : LockPath.flaw? path = none) :
    ',' ∉ path.toList := fun hmem ↦ ((LockPath.isInside_of_flaw? h).plain _ hmem).1 rfl

private theorem mountFields_mountsOf (h : c.Admits m t ctx) :
    ((mountsOf c).map String.toList).map mountFields =
      [["type=cache", "target=/root/.cache"]] ++
        (c.requirements.map fun path ↦
          ["type=bind", "source=" ++ path, "target=/tmp/requirements.txt"]).toList ++
        (secretIds c.indices).map (fun id ↦ ["type=secret", "id=" ++ id]) ++
        if c.transport.ssh then [["type=ssh", "required=true"]] else [] := by
  have hlock : ((c.requirements.map lockMount).toList.map String.toList).map mountFields =
      (c.requirements.map fun path ↦
        ["type=bind", "source=" ++ path, "target=/tmp/requirements.txt"]).toList := by
    cases hpath : c.requirements with
    | none => rfl
    | some path =>
      have hflaw := (Config.lockPathOf_eq_ok h.requirements).2 path hpath
      have hfields := mountFields_lockMount (comma_not_mem_of_flaw? hflaw.2)
      simp [hfields]
  have hsecrets : (((secretIds c.indices).map secretMount).map String.toList).map mountFields =
      (secretIds c.indices).map fun id ↦ ["type=secret", "id=" ++ id] := by
    rw [List.map_map, List.map_map]
    refine List.map_congr_left fun id hid ↦ mountFields_secretMount ?_
    obtain ⟨i, hi, hid⟩ := mem_secretIds.mp hid
    exact comma_not_mem_of_isSecretIdChar (h.isSecretIdChar_of_mem_secretIds hi hid)
  have hssh : ((if c.transport.ssh then [sshMount] else []).map String.toList).map mountFields =
      if c.transport.ssh then [["type=ssh", "required=true"]] else [] := by
    split
    · rw [List.map_singleton, List.map_singleton, mountFields_fixed.2]
    · rfl
  rw [mountsOf, List.map_append, List.map_append, List.map_append, List.map_append,
    List.map_cons, List.map_cons, hlock, hsecrets, hssh, mountFields_fixed.1]
  rfl

/-! ## Secrets -/

private theorem isFirstOccurrences_secretIds (indices : List PackageIndex) :
    IsFirstOccurrences (indices.flatMap PackageIndex.namedSecrets) (secretIds indices) := by
  rw [secretIds, isFirstOccurrences_iff]
  simp only [PackageIndex.secretIds_eq]

/-- One of the given tokens stands for what a command prints that takes the file of a secret as
its input. -/
def ReadsSecret (tokens : List Token) (id : String) : Prop :=
  ∃ token ∈ tokens, ∃ command, .output command ∈ token.parts ∧
    [.operator ['<'], .bare ("/run/secrets/" ++ id)] <:+: command

/-- The command that reads a secret takes the file of this secret, and of no other, as its
input. -/
theorem input_secretRead_iff {other : String} :
    [.operator ['<'], .bare ("/run/secrets/" ++ other)] <:+: secretRead id ↔ other = id := by
  constructor
  · intro h
    have hparts : other.toList.map Part.bare = id.toList.map Part.bare := by
      simpa [secretRead, List.infix_cons_iff, Token.bare, Token.quoted] using h
    exact String.toList_inj.mp (List.map_injective_iff.mpr (fun _ _ ↦ Part.bare.inj) hparts)
  · rintro rfl
    exact ⟨[.bare "tr", .bare "-d", .quoted "\\n"],
      [.operator ['|'], .bare "jq", .bare "-sRr", .bare "@uri"], rfl⟩

private theorem readsSecret_indexTokens {i : PackageIndex} (u : Url) (h : id ∈ i.secretIds) :
    ReadsSecret (indexTokens i u) id := by
  have hpiece := IndexOption.mem_pieces_of_mem_secretIds u h
  refine ⟨.word ((IndexOption.pieces i u).flatMap pieceParts), ?_, secretRead id, ?_,
    input_secretRead_iff.mpr rfl⟩
  · rw [indexTokens]
    exact List.mem_append_left _ (List.mem_cons_of_mem _ List.mem_cons_self)
  · exact List.mem_flatMap.mpr ⟨_, hpiece, List.mem_singleton_self _⟩

private theorem readsSecret_installTokens_iff
    (hurls : c.indices.map IndexOption.urlOf = urls.map .ok) :
    ReadsSecret (installTokens c urls) id ↔ id ∈ secretIds c.indices := by
  constructor
  · rintro ⟨token, htoken, command, hcommand, hinput⟩
    have hfixed := isFixed_installTokens c urls token htoken _ hcommand
    obtain ⟨other, hother, rfl⟩ := List.mem_map.mp hfixed
    rwa [input_secretRead_iff.mp hinput]
  · intro hid
    obtain ⟨i, hi, hid⟩ := mem_secretIds.mp hid
    obtain ⟨k, hk, rfl⟩ := List.mem_iff_getElem.mp hi
    have hlen : c.indices.length = urls.length := by simpa using congrArg List.length hurls
    have hk' : k < urls.length := hlen ▸ hk
    obtain ⟨token, htoken, hread⟩ := readsSecret_indexTokens urls[k] hid
    have hmem : indexTokens c.indices[k] urls[k] ∈ List.zipWith indexTokens c.indices urls :=
      List.mem_iff_getElem.mpr ⟨k, by rw [List.length_zipWith]; omega, by simp⟩
    refine ⟨token, ?_, hread⟩
    rw [installTokens]
    exact List.mem_append_left _ (List.mem_append_right _ (List.mem_flatten.mpr ⟨_, hmem, htoken⟩))

/-! ## Tools -/

/-- An instruction of the builder among the given ones installs a package. -/
def InstalledBy (script : Script) (flavor : Flavor) (package : String) : Prop :=
  ∃ run ∈ script, run.stage = .builder ∧ run.keyword = .run ∧ Installs flavor run.args package

private theorem installedBy_builderFront (h : package ∈ c.buildDeps) :
    InstalledBy (inStage .builder (builderFront c)) c.flavor package := by
  have hne : c.buildDeps ≠ [] := List.ne_nil_of_mem h
  refine ⟨⟨.builder, .run, Packages.cachedInstall c.flavor c.buildDeps⟩, ?_, rfl, rfl,
    installs_cachedInstall h⟩
  simp [inStage, builderFront, Packages.buildInstall, hne]

/-- When a resolved configuration is compiled and has something to install, one instruction of
the builder installs it. Its mounts are, in this order, the cache, the lock file if there is one,
each secret that an index names, once and where it is named first, and the keys exactly when the
secure shell is used. These secrets are just those that its command reads. The tools that it needs
for secrets, for the secure shell and for repositories are installed by an instruction of the
builder in front of it. -/
theorem exists_mounts_installation (hc : Config.resolve m requested ctx = .ok c)
    (hs : compile c params = .ok script)
    (hsome : c.requirements ≠ none ∨ c.dependencies ≠ []) :
    ∃ (before : Script) (args : String) (behind : Script) (tokens : List Token)
        (ids : List String),
      script = before ++ ⟨.builder, .run, args⟩ :: behind ∧
      installDependencies c = .ok [(.run, args)] ∧
      read? (splitMounts args.toList).2 = some tokens ∧
      (splitMounts args.toList).1.map mountFields =
        [["type=cache", "target=/root/.cache"]] ++
          (c.requirements.map fun path ↦
            ["type=bind", "source=" ++ path, "target=/tmp/requirements.txt"]).toList ++
          ids.map (fun id ↦ ["type=secret", "id=" ++ id]) ++
          (if c.transport.ssh then [["type=ssh", "required=true"]] else []) ∧
      (ids.Nodup ∧ (∀ id, id ∈ ids ↔ ∃ i ∈ c.indices, i.Names id) ∧
        IsFirstOccurrences (c.indices.flatMap PackageIndex.namedSecrets) ids) ∧
      (∀ id, id ∈ ids ↔ ReadsSecret tokens id) ∧
      ((∃ id, ReadsSecret tokens id) → InstalledBy before c.flavor "jq") ∧
      (c.transport.ssh = true → InstalledBy before c.flavor "openssh-client" ∧
        InstalledBy before c.flavor "git") ∧
      ((∃ dependency ∈ c.dependencies, Text.contains dependency "git+" = true) →
        InstalledBy before c.flavor "git") := by
  obtain ⟨t, -, ht⟩ := Config.resolve_eq_ok_iff.mp hc
  obtain ⟨install, env, labels, hinstall, -, -, rfl⟩ := compile_eq_ok_iff.mp hs
  obtain ⟨options, hoptions, rfl⟩ := (installDependencies_eq_ok_iff hsome).mp hinstall
  obtain ⟨urls, hurls, hread⟩ :=
    exists_urls (fun i hi id hid ↦ ht.isSecretIdChar_of_mem_secretIds hi hid) hoptions
  obtain ⟨behind, hlayout⟩ := exists_layout_eq_install c (installArgs c options) env labels
  have hpackage {package : String} (h : package ∈ c.transport.packages) :
      InstalledBy (inStage .builder (builderFront c)) c.flavor package := by
    refine installedBy_builderFront ?_
    rw [ht.buildDeps, Transport.mem_extend]
    exact .inr h
  refine ⟨_, installArgs c options, behind, installTokens c urls, secretIds c.indices, hlayout,
    hinstall, ?_, ?_, ⟨nodup_eraseDups _, fun id ↦ ?_, isFirstOccurrences_secretIds c.indices⟩,
    fun id ↦ (readsSecret_installTokens_iff hurls).symm, fun ⟨id, hid⟩ ↦ hpackage ?_,
    fun h ↦ ⟨hpackage ?_, hpackage ?_⟩, fun h ↦ hpackage ?_⟩
  · rw [splitMounts_installArgs ht]
    exact (reads_commandOf hread).read?
  · rw [splitMounts_installArgs ht]
    exact mountFields_mountsOf ht
  · simp only [mem_secretIds, PackageIndex.mem_secretIds]
  · obtain ⟨i, hi, hid⟩ := mem_secretIds.mp ((readsSecret_installTokens_iff hurls).mp hid)
    have hsecrets : c.transport.secrets = true := by
      rw [ht.transport, Transport.secrets_scan_iff]
      exact ⟨i, hi, id, PackageIndex.mem_secretIds.mp hid⟩
    exact Transport.mem_packages.mpr (.inr (.inr ⟨hsecrets, rfl⟩))
  · exact Transport.mem_packages.mpr (.inl ⟨h, rfl⟩)
  · have hgit : c.transport.git = true := by
      rw [ht.transport] at h ⊢
      exact Transport.git_of_ssh_scan h
    exact Transport.mem_packages.mpr (.inr (.inl ⟨hgit, rfl⟩))
  · have hgit : c.transport.git = true := by
      rw [ht.transport, Transport.scan]
      simpa [List.any_eq_true] using .inr h
    exact Transport.mem_packages.mpr (.inr (.inl ⟨hgit, rfl⟩))

/-- A lock file with a repository in it, behind a secure shell, and two indices that share a
secret. -/
theorem exists_mounts_installation_lock :
    let i : PackageIndex :=
      ⟨"https://host:8443/simple", none, some "pip.user", none, some "pip.token", false⟩
    let j : PackageIndex := ⟨"https://mirror/simple", none, none, none, some "pip.token", false⟩
    let m : Manifest :=
      { project := { name := "app", requiresPython := some ">=3.8" }
        targets := .ofList
          [("api", { requirements := some "deps/lock.txt", indices := [i, j] })] }
    let ctx : Context :=
      ⟨.ok "3.10.4", fun _ ↦ .ok ["flask==3.0", "lib @ git+ssh://git@example.com/lib"]⟩
    let c : Config :=
      { name := "app"
        target := some "api"
        pythonVersion := "3.10.4"
        dependencies := ["flask==3.0", "lib @ git+ssh://git@example.com/lib"]
        buildDeps := ["openssh-client", "git", "jq"]
        requirements := some "deps/lock.txt"
        indices := [i, j]
        transport := ⟨true, true, true⟩ }
    (Config.resolve m none ctx = .ok c ∧ c.requirements ≠ none) ∧
      ∃ script, compile c .empty = .ok script ∧
        ∃ (before : Script) (args : String) (behind : Script) (tokens : List Token),
          script = before ++ ⟨.builder, .run, args⟩ :: behind ∧
            read? (splitMounts args.toList).2 = some tokens ∧
            (splitMounts args.toList).1.map mountFields =
              [["type=cache", "target=/root/.cache"],
                ["type=bind", "source=deps/lock.txt", "target=/tmp/requirements.txt"],
                ["type=secret", "id=pip.user"], ["type=secret", "id=pip.token"],
                ["type=ssh", "required=true"]] ∧
            ReadsSecret tokens "pip.user" ∧ ReadsSecret tokens "pip.token" ∧
            InstalledBy before .debian "jq" ∧ InstalledBy before .debian "openssh-client" := by
  intro i j m ctx c
  have hc : Config.resolve m none ctx = .ok c := by decide +kernel
  have hlock : c.requirements ≠ none := Option.some_ne_none _
  have hsome : (compile c .empty).toOption.isSome = true := by decide +kernel
  refine ⟨⟨hc, hlock⟩, ?_⟩
  obtain ⟨script, hs⟩ := exists_eq_ok_of_isSome hsome
  obtain ⟨before, args, behind, tokens, ids, hscript, -, hread, hmounts, ⟨-, -, hfirst⟩, hreads,
    hjq, hssh, -⟩ := exists_mounts_installation hc hs (.inl hlock)
  obtain rfl : ids = ["pip.user", "pip.token"] :=
    (isFirstOccurrences_iff.mp hfirst).trans (by decide +kernel)
  have huser : ReadsSecret tokens "pip.user" := (hreads _).mp (by decide)
  have htoken : ReadsSecret tokens "pip.token" := (hreads _).mp (by decide)
  exact ⟨script, hs, before, args, behind, tokens, hscript, hread, hmounts, huser, htoken,
    hjq ⟨_, huser⟩, (hssh rfl).1⟩

end ContainerBuild.Script
