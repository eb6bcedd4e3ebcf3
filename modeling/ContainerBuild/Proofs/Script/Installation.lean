import ContainerBuild.Proofs.Script.IndexOption
import ContainerBuild.Proofs.Script.Mounts
import ContainerBuild.Proofs.Shell.Words

/-!
# What a shell reads in the installation of dependencies

Whatever the dependencies, the URLs and the credentials are, a shell finds the words that are
meant: each text is the text of one word or of a part of one, and the only commands that it
runs on the way are those that read the secrets of the indices.
-/

namespace ContainerBuild.Script

open Shell

/-- The command that reads a secret and encodes it for a URL. -/
def secretRead (id : String) : List Token :=
  [.bare "tr", .bare "-d", .quoted "\\n", .operator ['<'], .bare ("/run/secrets/" ++ id),
    .operator ['|'], .bare "jq", .bare "-sRr", .bare "@uri"]

/-- What a piece of a URL is in a word. -/
def pieceParts : IndexOption.Piece → List Part
  | .literal text => text.toList.map .quoted
  | .secret id => [.output (secretRead id)]

/-- The tokens of the options for an index, whose URL is given. -/
def indexTokens (i : PackageIndex) (u : Url) : List Token :=
  [.bare "--extra-index-url", .word ((IndexOption.pieces i u).flatMap pieceParts)] ++
    if i.trust then [.bare "--trusted-host", .quoted (String.ofList u.hostAndPort)] else []

/-- The tokens of what is installed. -/
def subjectTokens (c : Config) : List Token :=
  match c.requirements with
  | some _ => [.bare "-r", .bare lockTarget]
  | none => c.dependencies.map .quoted

/-- The word that lets the shell connect to hosts that it does not know. -/
def sshToken : Token :=
  .word ("GIT_SSH_COMMAND=".toList.map .bare ++
    "ssh -o StrictHostKeyChecking=no".toList.map .quoted)

/-- The words that run the installer. -/
def pipWords : List String := ["python", "-m", "pip", "install", "--user", "--retries", "2"]

/-- The tokens of the installation of dependencies, where the URLs of the indices are given. -/
def installTokens (c : Config) (urls : List Url) : List Token :=
  (if c.transport.ssh then [sshToken] else []) ++
    pipWords.map .bare ++ (List.zipWith indexTokens c.indices urls).flatten ++
    subjectTokens c

variable {m : Manifest} {requested : Option String} {ctx : Context} {c : Config} {t : Target}
  {params : Dict String} {script : Script} {i : PackageIndex} {u : Url} {id : String}

/-! ## Secrets -/

private theorem isPlain_of_isSecretIdChar {char : Char} (h : isSecretIdChar char = true) :
    isPlain char = true := by
  rw [isPlain, contains_eq_false (p := isSecretIdChar) (by decide) h, Bool.not_false]

private theorem fills_secretExpression (h : ∀ char ∈ id.toList, isSecretIdChar char = true) :
    Fills .double (IndexOption.secretExpression id).toList [.output (secretRead id)] := by
  have hpath : isPlainWord ("/run/secrets/" ++ id) = true := by
    have hid : id.toList.all isPlain = true :=
      List.all_eq_true.mpr fun char hchar ↦ isPlain_of_isSecretIdChar (h char hchar)
    rw [isPlainWord, String.toList_append, List.all_append, hid]
    rfl
  have hfilter := (@reads_plains ["tr", "-d"] (by decide)).append
    ((reads_shellWord "\\n").append (@reads_operator '<' rfl))
  have hquery := (@reads_operator '|' rfl).append (@reads_plains ["jq", "-sRr", "@uri"] (by decide))
  have hread := hfilter.append ((reads_plain hpath).append hquery)
  have hquoted : (Quote.shellWord "\\n").toList = ['\'', '\\', 'n', '\''] := rfl
  rw [IndexOption.secretExpression_eq]
  simpa [secretRead, String.toList_intercalate, hquoted] using fills_command hread

/-! ## Indices -/

private theorem begins_word
    (h : ∀ id ∈ i.secretIds, ∀ char ∈ id.toList, isSecretIdChar char = true) :
    Begins (IndexOption.word i u).toList ((IndexOption.pieces i u).flatMap pieceParts) := by
  rw [IndexOption.word]
  split
  · have hpiece : ∀ piece ∈ IndexOption.pieces i u,
        Fills .double piece.inQuotes.toList (pieceParts piece) := by
      intro piece hpiece
      cases piece with
      | literal text =>
        rw [IndexOption.Piece.inQuotes, Quote.literal, String.toList_ofList]
        exact fills_literalChars text.toList
      | secret id =>
        exact fills_secretExpression (h id (IndexOption.mem_secretIds_of_mem_pieces hpiece))
    have hword := begins_double (Fills.flatMap hpiece)
    rwa [String.toList_append, String.toList_append, String.toList_join, List.flatMap_map]
  · next hsecrets =>
    have hnone : i.secretIds = [] := by simpa [PackageIndex.usesSecrets] using hsecrets
    have hword := begins_shellWord
      (String.join ((IndexOption.pieces i u).map IndexOption.Piece.text))
    rw [String.toList_join, List.flatMap_map, List.map_flatMap] at hword
    have hparts : (IndexOption.pieces i u).flatMap pieceParts =
        (IndexOption.pieces i u).flatMap fun piece ↦ piece.text.toList.map .quoted := by
      refine List.flatMap_congr fun piece hpiece ↦ ?_
      cases piece with
      | literal text => rfl
      | secret id =>
        have hid := IndexOption.mem_secretIds_of_mem_pieces hpiece
        rw [hnone] at hid
        cases hid
    rwa [hparts]

/-- The options for an index are an option with its URL and, for a trusted one, an option with
its host. -/
theorem reads_render (h : ∀ id ∈ i.secretIds, ∀ char ∈ id.toList, isSecretIdChar char = true)
    {option : String} (hoption : IndexOption.render i = .ok option) :
    ∃ u, IndexOption.urlOf i = .ok u ∧ Reads option.toList (indexTokens i u) := by
  rw [IndexOption.render] at hoption
  cases hu : IndexOption.urlOf i with
  | error e =>
    rw [hu] at hoption
    cases hoption
  | ok u =>
    rw [hu] at hoption
    refine ⟨u, rfl, ?_⟩
    have hurl := (@reads_plain "--extra-index-url" (by decide)).append
      (@begins_word i u h).reads
    rw [indexTokens, ← Except.ok.inj hoption]
    cases i.trust with
    | false => simpa using hurl
    | true =>
      have hhost := (@reads_plain "--trusted-host" (by decide)).append
        (reads_shellWord (String.ofList u.hostAndPort))
      simpa using hurl.append hhost

/-- The options for indices are those for each of them, in order. -/
theorem exists_urls {indices : List PackageIndex} {options : List String}
    (h : ∀ i ∈ indices, ∀ id ∈ i.secretIds, ∀ char ∈ id.toList, isSecretIdChar char = true)
    (hoptions : List.Forall₂ (fun i option ↦ IndexOption.render i = .ok option) indices options) :
    ∃ urls, indices.map IndexOption.urlOf = urls.map .ok ∧
      List.Forall₂ Reads (options.map String.toList) (List.zipWith indexTokens indices urls) := by
  induction hoptions with
  | nil => exact ⟨[], rfl, .nil⟩
  | @cons i option indices options hi _ ih =>
    obtain ⟨u, hu, hread⟩ := reads_render (h i List.mem_cons_self) hi
    obtain ⟨urls, hurls, hreads⟩ := ih fun j hj ↦ h j (List.mem_cons_of_mem _ hj)
    refine ⟨u :: urls, ?_, .cons hread hreads⟩
    rw [List.map_cons, List.map_cons, hu, hurls]

/-! ## The command -/

private theorem reads_sshCommand : Reads sshCommand.toList [sshToken] := by
  have hname := @begins_plain "GIT_SSH_COMMAND=".toList (by decide)
    (List.all_eq_true.mp (by decide))
  exact (hname.append (begins_shellWord "ssh -o StrictHostKeyChecking=no").fills).reads

private theorem exists_subjects (c : Config) :
    ∃ tokens, List.Forall₂ Reads ((installSubjects c).map String.toList) tokens ∧
      tokens.flatten = subjectTokens c := by
  rw [installSubjects, subjectTokens]
  cases c.requirements with
  | some path =>
    have hlock : Reads ("-r " ++ lockTarget).toList [.bare "-r", .bare lockTarget] := by
      have := @reads_plains ["-r", lockTarget] (by decide)
      simpa [String.intercalate_cons_cons] using this
    exact ⟨[[.bare "-r", .bare lockTarget]], .cons hlock .nil, rfl⟩
  | none =>
    refine ⟨c.dependencies.map ([.quoted ·]), ?_, ?_⟩
    · rw [List.forall₂_map_left_iff, List.forall₂_map_left_iff, List.forall₂_map_right_iff,
        List.forall₂_same]
      exact fun dependency _ ↦ reads_shellWord dependency
    · rw [← List.flatMap_def, ← List.map_eq_flatMap]

/-- The words of the command are read as they are meant, once the options for the indices
are. -/
theorem reads_commandOf {options : List String} {urls : List Url}
    (h : List.Forall₂ Reads (options.map String.toList)
      (List.zipWith indexTokens c.indices urls)) :
    Reads (" ".intercalate (commandOf c options)).toList (installTokens c urls) := by
  obtain ⟨subjects, hsubjects, hflatten⟩ := exists_subjects c
  have hssh : List.Forall₂ Reads
      ((if c.transport.ssh then [sshCommand] else []).map String.toList)
      (if c.transport.ssh then [[sshToken]] else []) := by
    split
    · exact .cons reads_sshCommand .nil
    · exact .nil
  have hpip : Reads "python -m pip install --user --retries 2".toList (pipWords.map .bare) := by
    have := @reads_plains pipWords (by decide)
    simpa [pipWords, String.intercalate_cons_cons] using this
  have hall : List.Forall₂ Reads ((commandOf c options).map String.toList)
      ((if c.transport.ssh then [[sshToken]] else []) ++ [pipWords.map Token.bare] ++
        List.zipWith indexTokens c.indices urls ++ subjects) := by
    rw [commandOf, List.map_append, List.map_append, List.map_append]
    exact List.rel_append (List.rel_append (List.rel_append hssh (.cons hpip .nil)) h) hsubjects
  have htokens : ((if c.transport.ssh then [[sshToken]] else []) ++ [pipWords.map Token.bare] ++
      List.zipWith indexTokens c.indices urls ++ subjects).flatten = installTokens c urls := by
    rw [List.flatten_append, List.flatten_append, List.flatten_append, hflatten, installTokens]
    split <;> rfl
  rw [String.toList_intercalate, ← htokens]
  exact Reads.intercalate hall

/-! ## What is expanded -/

private theorem isFixed_secretRead (h : ∀ char ∈ id.toList, isSecretIdChar char = true) :
    ∀ token ∈ secretRead id, token.IsFixed [] := by
  have hpath : ("/run/secrets/" ++ id).toList.all isInert = true := by
    have hid : id.toList.all isInert = true := List.all_eq_true.mpr fun char hchar ↦ by
      rw [isInert, contains_eq_false (p := isSecretIdChar) (by decide) (h char hchar),
        Bool.not_false]
    rw [String.toList_append, List.all_append, hid]
    rfl
  simp only [secretRead, List.forall_mem_cons]
  refine ⟨isFixed_bare (by decide), isFixed_bare (by decide), isFixed_quoted _,
    isFixed_operator _, isFixed_bare hpath, isFixed_operator _, isFixed_bare (by decide),
    isFixed_bare (by decide), isFixed_bare (by decide), fun token htoken ↦ by cases htoken⟩

private theorem isFixed_indexTokens (hi : i ∈ c.indices) :
    ∀ token ∈ indexTokens i u, token.IsFixed ((secretIds c.indices).map secretRead) := by
  have hword : (Token.word ((IndexOption.pieces i u).flatMap pieceParts)).IsFixed
      ((secretIds c.indices).map secretRead) := by
    intro part hpart
    obtain ⟨piece, hpiece, hpart⟩ := List.mem_flatMap.mp hpart
    cases piece with
    | literal text => exact isFixed_quoted text part hpart
    | secret id =>
      obtain rfl := List.mem_singleton.mp hpart
      have hid := IndexOption.mem_secretIds_of_mem_pieces hpiece
      exact List.mem_map_of_mem (mem_secretIds.mpr ⟨i, hi, hid⟩)
  rw [indexTokens, List.forall_mem_append]
  constructor
  · simp only [List.forall_mem_cons]
    exact ⟨isFixed_bare (by decide), hword, fun token htoken ↦ by cases htoken⟩
  · split
    · simp only [List.forall_mem_cons]
      exact ⟨isFixed_bare (by decide), isFixed_quoted _, fun token htoken ↦ by cases htoken⟩
    · exact fun token htoken ↦ by cases htoken

/-- In the installation of dependencies, nothing is expanded but the secrets of the indices. -/
theorem isFixed_installTokens (c : Config) (urls : List Url) :
    ∀ token ∈ installTokens c urls, token.IsFixed ((secretIds c.indices).map secretRead) := by
  simp only [installTokens, List.forall_mem_append]
  refine ⟨⟨⟨?_, ?_⟩, ?_⟩, ?_⟩
  · split
    · intro token htoken part hpart
      obtain rfl := List.mem_singleton.mp htoken
      rcases List.mem_append.mp hpart with hpart | hpart
      · exact isFixed_bare (s := "GIT_SSH_COMMAND=") (by decide) part hpart
      · exact isFixed_quoted "ssh -o StrictHostKeyChecking=no" part hpart
    · exact fun token htoken ↦ by cases htoken
  · rw [List.forall_mem_map]
    intro word hword
    have hall : pipWords.all (·.toList.all isInert) = true := by decide
    exact isFixed_bare (List.all_eq_true.mp hall word hword)
  · intro token htoken
    obtain ⟨tokens, htokens, htoken⟩ := List.mem_flatten.mp htoken
    rw [← List.map_uncurry_zip_eq_zipWith] at htokens
    obtain ⟨⟨i, u⟩, hmem, rfl⟩ := List.mem_map.mp htokens
    exact isFixed_indexTokens (List.of_mem_zip hmem).1 token htoken
  · rw [subjectTokens]
    split
    · simp only [List.forall_mem_cons]
      exact ⟨isFixed_bare (by decide), isFixed_bare (by decide), fun token htoken ↦ by cases htoken⟩
    · rw [List.forall_mem_map]
      exact fun dependency _ ↦ isFixed_quoted dependency

/-- When a resolved configuration is compiled and has something to install, one instruction of
the builder installs it. Behind its mounts a shell reads exactly the setting for a secure shell,
the installer, the options for the indices and what is installed, and expands nothing but the
secrets that these indices read. -/
theorem exists_read_installation (hc : Config.resolve m requested ctx = .ok c)
    (hs : compile c params = .ok script)
    (hsome : c.requirements ≠ none ∨ c.dependencies ≠ []) :
    ∃ args urls, installDependencies c = .ok [(.run, args)] ∧
      ⟨.builder, .run, args⟩ ∈ script ∧ c.indices.map IndexOption.urlOf = urls.map .ok ∧
      read? (splitMounts args.toList).2 = some (installTokens c urls) ∧
      (∀ token ∈ installTokens c urls,
        token.IsFixed ((secretIds c.indices).map secretRead)) ∧
      ∀ id ∈ secretIds c.indices, ∀ token ∈ secretRead id, token.IsFixed [] := by
  obtain ⟨t, -, ht⟩ := Config.resolve_eq_ok_iff.mp hc
  obtain ⟨install, env, labels, hinstall, -, -, rfl⟩ := compile_eq_ok_iff.mp hs
  obtain ⟨options, hoptions, rfl⟩ := (installDependencies_eq_ok_iff hsome).mp hinstall
  obtain ⟨urls, hurls, hread⟩ :=
    exists_urls (fun i hi id hid ↦ ht.isSecretIdChar_of_mem_secretIds hi hid) hoptions
  refine ⟨_, urls, hinstall, ?_, hurls, ?_, isFixed_installTokens c urls, ?_⟩
  · simp [layout, inStage, builderLayout]
  · rw [splitMounts_installArgs ht]
    exact (reads_commandOf hread).read?
  · intro id hid
    obtain ⟨i, hi, hid⟩ := mem_secretIds.mp hid
    exact isFixed_secretRead (ht.isSecretIdChar_of_mem_secretIds hi hid)

/-- A repository behind a secure shell, a dependency with quotes and a command in it, and a
trusted index with a secret between literal texts. -/
theorem exists_read_installation_quotes :
    let i : PackageIndex :=
      ⟨"https://host:8443/a$b", some "us`er", none, none, some "pip.token", true⟩
    let m : Manifest :=
      { project :=
          { name := "app"
            dependencies := ["lib @ git+ssh://git@example.com/lib", "it's; $(id)"]
            requiresPython := some ">=3.8" }
        targets := .ofList [("api", { indices := [i] })] }
    let ctx : Context := ⟨.ok "3.10.4", fun _ ↦ .ok []⟩
    let c : Config :=
      { name := "app"
        target := some "api"
        pythonVersion := "3.10.4"
        dependencies := ["lib @ git+ssh://git@example.com/lib", "it's; $(id)"]
        buildDeps := ["openssh-client", "git", "jq"]
        indices := [i]
        transport := ⟨true, true, true⟩ }
    (Config.resolve m none ctx = .ok c ∧ c.dependencies ≠ []) ∧
      ∃ script, compile c .empty = .ok script ∧
        ∃ args urls, installDependencies c = .ok [(.run, args)] ∧
          ⟨.builder, .run, args⟩ ∈ script ∧ c.indices.map IndexOption.urlOf = urls.map .ok ∧
          read? (splitMounts args.toList).2 = some (installTokens c urls) ∧
          (∀ token ∈ installTokens c urls,
            token.IsFixed ((secretIds c.indices).map secretRead)) ∧
          ∀ id ∈ secretIds c.indices, ∀ token ∈ secretRead id, token.IsFixed [] := by
  intro i m ctx c
  have hc : Config.resolve m none ctx = .ok c := by decide +kernel
  have hd : c.dependencies ≠ [] := List.cons_ne_nil _ _
  have hsome : (compile c .empty).toOption.isSome = true := by decide +kernel
  refine ⟨⟨hc, hd⟩, ?_⟩
  obtain ⟨script, hs⟩ := exists_eq_ok_of_isSome hsome
  exact ⟨script, hs, exists_read_installation hc hs (.inr hd)⟩

end ContainerBuild.Script
