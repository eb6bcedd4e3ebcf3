import ContainerBuild.Proofs.Script.IndexUrl

/-!
# The credentials in the URL that the installer is given

Once the secrets have been read, the word for the URL of an index is a URL with the credentials of
the index. A literal credential is encoded in it, but a percent sign stays as it is there. So it is
decoded as itself exactly when no percent sign in it has two hexadecimal digits behind it.
-/

namespace ContainerBuild

namespace Shell

/-- What a part of a word becomes, where it is given what commands print. -/
def Part.expand (prints : List Token → List Char) : Part → List Char
  | .bare c => [c]
  | .quoted c => [c]
  | .output command => prints command

/-- What a word becomes, where it is given what commands print. -/
def expand (prints : List Token → List Char) (parts : List Part) : String :=
  String.ofList (parts.flatMap (Part.expand prints))

end Shell

namespace IndexOption

open Shell Url

variable {i : PackageIndex} {u v : Url} {option : String} {prints : List Shell.Token → List Char}

/-- The characters that `@uri` prints: all others are escaped. Its older versions leave some of the
punctuation that newer ones escape. -/
def isUriChar (c : Char) : Bool :=
  c.isAlphanum || ['-', '_', '.', '!', '~', '*', '\'', '(', ')', '%'].contains c

private theorem keptUserinfo_of_isUriChar {c : Char} (h : isUriChar c = true) :
    keptUserinfo c = true := by
  have hlt : c.toNat < 128 := by
    rw [isUriChar, Bool.or_eq_true] at h
    rcases h with h | h
    · have := toNat_of_isAlphanum h
      omega
    · exact Text.forall_mem_of_all (p := (·.toNat < 128)) (by decide) c
        (List.contains_iff_mem.mp h)
  have hall := Text.forall_ascii (p := fun c ↦ isUriChar c = true → keptUserinfo c = true)
    (by decide +kernel)
  exact hall c hlt h

/-- A credential as it stands in a URL, where it is given what commands print. -/
def shown (prints : List Shell.Token → List Char) : Credential → List Char
  | .plain text => encode keptUserinfo text.toList
  | .secret id => prints (Script.secretRead id)

private theorem expand_pieces {user password : Option String}
    (huser : i.usernameCredential.bind Credential.plainText? = user)
    (hpassword : i.passwordCredential.bind Credential.plainText? = password) :
    expand prints ((pieces i (withPlain u user password)).flatMap Script.pieceParts) =
      u.written (spelled (i.usernameCredential.map (shown prints))
        (i.passwordCredential.map (shown prints))) := by
  have hfrom : (withPlain u user password).fromHost = u.fromHost := rfl
  have hscheme : (withPlain u user password).scheme = u.scheme := rfl
  rw [expand, pieces, hfrom, hscheme, written, ← huser, ← hpassword]
  generalize i.usernameCredential = name
  generalize i.passwordCredential = text
  congr 1
  rcases name with _ | (_ | _) <;> rcases text with _ | (_ | _) <;>
    simp [usernamePieces, passwordPieces, Script.pieceParts, spelled, credentialText, withPlain,
      shown, Part.expand, Credential.plainText?, List.flatMap_map]

private theorem isSpelled_map_shown {credential : Option Credential}
    (h : ∀ id, credential = some (.secret id) →
      ∀ c ∈ prints (Script.secretRead id), isUriChar c = true) :
    IsSpelled (credential.map (shown prints)) := by
  rcases credential with _ | (id | text)
  · exact List.forall_mem_nil _
  · exact fun c hc ↦ keptUserinfo_of_isUriChar (h id rfl c hc)
  · exact kept_of_mem_encode_userinfo

private theorem credentials_ne_none {text : String}
    (h : i.usernameCredential = some (.plain text) ∨ i.passwordCredential = some (.plain text)) :
    credentials (i.usernameCredential.bind Credential.plainText?)
      (i.passwordCredential.bind Credential.plainText?) ≠ none := by
  rcases h with h | h
  · rw [h]
    cases i.passwordCredential.bind Credential.plainText? <;> exact Option.some_ne_none _
  · rw [h]
    cases i.usernameCredential.bind Credential.plainText? <;> exact Option.some_ne_none _

private theorem exists_word_of_render
    (hids : ∀ id ∈ i.secretIds, ∀ char ∈ id.toList, isSecretIdChar char = true)
    (hprints : ∀ id ∈ i.secretIds, ∀ c ∈ prints (Script.secretRead id), isUriChar c = true)
    (h : render i = .ok option) :
    ∃ parts rest, read? option.toList = some (.bare "--extra-index-url" :: .word parts :: rest) ∧
      ∀ text,
        i.usernameCredential = some (.plain text) ∨ i.passwordCredential = some (.plain text) →
        ∃ v, Url.parse (expand prints parts) = .ok v ∧
          v.username = (i.usernameCredential.map (shown prints)).getD [] ∧
          v.password = (i.passwordCredential.map (shown prints)).filter (!·.isEmpty) := by
  have huser : IsSpelled (i.usernameCredential.map (shown prints)) :=
    isSpelled_map_shown fun id hid ↦
      hprints id (PackageIndex.mem_secretIds_of_credential (.inl hid))
  have hpassword : IsSpelled (i.passwordCredential.map (shown prints)) :=
    isSpelled_map_shown fun id hid ↦
      hprints id (PackageIndex.mem_secretIds_of_credential (.inr hid))
  obtain ⟨v, hv, hreads⟩ := Script.reads_render hids h
  obtain ⟨u, hparse, rfl, hcan⟩ := exists_of_urlOf rfl rfl hv
  refine ⟨_, _, hreads.read?, fun text hplain ↦ ?_⟩
  have hcan : u.canCarryCredentials = true := hcan (credentials_ne_none hplain)
  have hhost : u.host ≠ none := by
    intro hnone
    simp [canCarryCredentials, hnone] at hcan
  have hloose : ¬u.HasLooseDrive := by
    intro hloose
    simp [canCarryCredentials, hloose.1] at hcan
  have hspelled := isCredentials_spelled huser hpassword
  have hread := parse_written hparse hhost hloose hspelled fun _ ↦ hcan
  rw [credentialParts_spelled huser hpassword, ← @expand_pieces i u prints _ _ rfl rfl] at hread
  exact ⟨_, hread, rfl, rfl⟩

/-- A shell reads in the options for an index a word for its URL. Once the secrets in it are read,
the word is a URL in which the literal credentials stand. Each of them is decoded as the text that
is configured exactly when that text has no escape: a percent sign in it is not encoded, so that one
with two hexadecimal digits behind it becomes an escape. -/
theorem decode_credentials_render_iff
    (hids : ∀ id ∈ i.secretIds, ∀ char ∈ id.toList, isSecretIdChar char = true)
    (hprints : ∀ id ∈ i.secretIds, ∀ c ∈ prints (Script.secretRead id), isUriChar c = true)
    (h : render i = .ok option) :
    ∃ parts rest, read? option.toList = some (.bare "--extra-index-url" :: .word parts :: rest) ∧
      (∀ name, i.usernameCredential = some (.plain name) →
        ∃ v, Url.parse (expand prints parts) = .ok v ∧
          (decode? v.username = some name.toList ↔ ¬ HasEscape name.toList)) ∧
      (∀ text, i.passwordCredential = some (.plain text) →
        ∃ v password, Url.parse (expand prints parts) = .ok v ∧ v.password = some password ∧
          (decode? password = some text.toList ↔ ¬ HasEscape text.toList)) := by
  obtain ⟨parts, rest, hread, hurl⟩ := exists_word_of_render hids hprints h
  refine ⟨parts, rest, hread, fun name hname ↦ ?_, fun text htext ↦ ?_⟩
  · obtain ⟨v, hv, huser, -⟩ := hurl name (.inl hname)
    refine ⟨v, hv, ?_⟩
    rw [huser, hname]
    exact decode?_encode_eq_self_iff keepsWritten_keptUserinfo
  · obtain ⟨v, hv, -, hpassword⟩ := hurl text (.inr htext)
    have hne : encode keptUserinfo text.toList ≠ [] := by
      rw [ne_eq, encode_eq_nil_iff, String.toList_eq_nil_iff]
      exact Credential.ne_empty_of_bind_plainText?_pick
        (congrArg (·.bind Credential.plainText?) htext)
    refine ⟨v, encode keptUserinfo text.toList, hv, ?_,
      decode?_encode_eq_self_iff keepsWritten_keptUserinfo⟩
    rw [hpassword, htext, Option.map_some, shown, Option.filter_some]
    simp [hne]

/-- A user name with delimiters of URLs, quotes, a dollar, a letter beyond ASCII and a percent sign,
beside a password that is read from a secret. -/
theorem decode_credentials_render_iff_delimiters :
    let name := "j'o: \"$x\"@é/ 5%"
    let i : PackageIndex :=
      ⟨"https://example.com/simple", some name, none, none, some "pip.token", false⟩
    let prints : List Shell.Token → List Char := fun _ ↦ "s%3Acret".toList
    (∀ id ∈ i.secretIds, ∀ char ∈ id.toList, isSecretIdChar char = true) ∧
      (∀ id ∈ i.secretIds, ∀ c ∈ prints (Script.secretRead id), isUriChar c = true) ∧
      ∃ option parts rest v, render i = .ok option ∧
        read? option.toList = some (.bare "--extra-index-url" :: .word parts :: rest) ∧
        Url.parse (expand prints parts) = .ok v ∧ decode? v.username = some name.toList := by
  intro name i prints
  have hids : ∀ id ∈ i.secretIds, ∀ char ∈ id.toList, isSecretIdChar char = true := by
    have hall : i.secretIds.all (·.toList.all isSecretIdChar) = true := by decide +kernel
    simpa using hall
  have hprints : ∀ id ∈ i.secretIds, ∀ c ∈ prints (Script.secretRead id), isUriChar c = true :=
    fun _ _ ↦ Text.forall_mem_of_all (by decide +kernel)
  have huser : i.usernameCredential = some (.plain name) := by decide +kernel
  have hescape : ¬ HasEscape name.toList := by decide +kernel
  have hsome : (render i).toOption.isSome = true := by decide +kernel
  obtain ⟨option, hrender⟩ := Script.exists_eq_ok_of_isSome hsome
  obtain ⟨parts, rest, hread, hname, -⟩ := decode_credentials_render_iff hids hprints hrender
  obtain ⟨v, hv, hiff⟩ := hname name huser
  exact ⟨hids, hprints, option, parts, rest, v, hrender, hread, hv, hiff.mpr hescape⟩

/-- An escape in a user name is decoded as another character. -/
theorem decode_ne_of_hasEscape :
    let i : PackageIndex := ⟨"https://example.com/simple", some "a%41", none, none, none, false⟩
    let text := "https://a%41@example.com/simple"
    i.usernameCredential = some (.plain "a%41") ∧
      render i = .ok "--extra-index-url 'https://a%41@example.com/simple'" ∧
      read? "--extra-index-url 'https://a%41@example.com/simple'".toList =
        some [.bare "--extra-index-url", .quoted text] ∧
      (Url.parse text).map (fun v ↦ decode? v.username) = .ok (some "aA".toList) ∧
      some "aA".toList ≠ some "a%41".toList := by
  intro i text
  have hread := ((@Shell.reads_plain "--extra-index-url" (by decide)).append
    (Shell.reads_shellWord text)).read?
  have htext : "--extra-index-url".toList ++ ' ' :: (Quote.shellWord text).toList =
      "--extra-index-url 'https://a%41@example.com/simple'".toList := by decide +kernel
  rw [htext] at hread
  exact ⟨by decide +kernel, by decide +kernel, hread, by decide +kernel, by decide⟩

end IndexOption

end ContainerBuild
