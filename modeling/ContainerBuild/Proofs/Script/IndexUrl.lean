import ContainerBuild.Proofs.PackageIndex.Credentials
import ContainerBuild.Proofs.Script.Installation
import ContainerBuild.Proofs.Url.RoundTrip

/-!
# The URL that the installer is given

The URL of an index is written anew, from its scheme, its literal credentials and what stands from
its host on. A URL is read back from that with these credentials, so that the installer is given the
URL of the index except for credentials that stand in that URL already, which are left out. Two
kinds of URLs are not read back: one whose path is a text gets a host or another path from the two
slashes behind its scheme, and a loose drive of a file settles.
-/

namespace ContainerBuild.IndexOption

open Shell Url

variable {i : PackageIndex} {u v : Url} {user password : Option String} {option : String}

/-! ## Literal credentials -/

/-- Credentials as they stand in a URL. -/
def credentials : Option String → Option String → Option (List Char)
  | none, none => none
  | some user, none => some (encode keptUserinfo user.toList)
  | user, some password =>
    some (encode keptUserinfo (user.getD "").toList ++ ':' :: encode keptUserinfo password.toList)

/-- The characters of an encoded user name stay in one. -/
theorem kept_of_mem_encode_userinfo {text : List Char} :
    ∀ c ∈ encode keptUserinfo text, keptUserinfo c = true :=
  fun _ hc ↦ kept_of_mem_encode (by decide) hc

/-- Credentials as they stand in a URL, when the user name and the password are given as they stand
there. -/
def spelled : Option (List Char) → Option (List Char) → Option (List Char)
  | none, none => none
  | some user, none => some user
  | user, some password => some (user.getD [] ++ ':' :: password)

/-- The characters of a part of credentials stay in it. -/
def IsSpelled (text : Option (List Char)) : Prop := ∀ c ∈ text.getD [], keptUserinfo c = true

/-- Parts of credentials whose characters stay in them are credentials. -/
theorem isCredentials_spelled {user password : Option (List Char)} (huser : IsSpelled user)
    (hpassword : IsSpelled password) : IsCredentials (spelled user password) := by
  intro t ht c hc
  rw [spelled.eq_def] at ht
  split at ht
  · cases ht
  · obtain rfl := Option.some.inj ht
    exact .inl (huser c hc)
  · obtain rfl := Option.some.inj ht
    rcases List.mem_append.mp hc with hc | hc
    · exact .inl (huser c hc)
    · rcases List.mem_cons.mp hc with rfl | hc
      · exact .inr rfl
      · exact .inl (hpassword c hc)

/-- Parts of credentials are read back; an empty password is none. -/
theorem credentialParts_spelled {user password : Option (List Char)} (huser : IsSpelled user)
    (hpassword : IsSpelled password) :
    credentialParts (spelled user password) = (user.getD [], password.filter (!·.isEmpty)) := by
  have hname := encode_eq_self huser
  have hcolon : ':' ∉ user.getD [] := fun hc ↦ by cases huser ':' hc
  rw [spelled.eq_def]
  split
  · rfl
  · next name =>
    have hcut : Text.cutAt ':' name = none := Text.cutAt_eq_none_iff.mpr hcolon
    rw [credentialParts, userinfo, hcut]
    exact congrArg (·, none) hname
  · next text =>
    have htext : encode keptUserinfo text = text := encode_eq_self hpassword
    rw [credentialParts, userinfo, Text.cutAt_append hcolon]
    dsimp only
    rw [hname, htext, Option.filter_some]
    cases text <;> rfl

/-- A URL with literal credentials in place of those that it has. -/
def withPlain (u : Url) (user password : Option String) : Url :=
  { u with
    username := user.elim u.username fun name ↦ encode keptUserinfo name.toList
    password := password.elim u.password fun text ↦ some (encode keptUserinfo text.toList) }

private theorem of_putUsername
    (hkept : u.canCarryCredentials = true → ∀ c ∈ u.username, keptUserinfo c = true)
    (h : putUsername u (user.map .plain) = .ok v) :
    (user ≠ none → u.canCarryCredentials = true) ∧ v = withPlain u user none := by
  cases user with
  | none => exact ⟨fun hne ↦ absurd rfl hne, (Except.ok.inj h).symm⟩
  | some name =>
    have hput := eq_some_of_getD_eq_ok h
    rw [withUsername?] at hput
    split at hput
    · cases hput
    · next hcan =>
      have hcan : u.canCarryCredentials = true := by simpa using hcan
      refine ⟨fun _ ↦ hcan, ?_⟩
      rw [withPlain]
      split at hput
      · next hname =>
        -- the user name is the one that stands there, and so it is encoded
        rw [Option.elim_some, ← hname, encode_eq_self (hkept hcan)]
        exact (Option.some.inj hput).symm
      · exact (Option.some.inj hput).symm

private theorem of_putPassword (hne : ∀ text ∈ password, text ≠ "")
    (h : putPassword u (password.map .plain) = .ok v) :
    (password ≠ none → u.canCarryCredentials = true) ∧ v = withPlain u none password := by
  cases password with
  | none => exact ⟨fun hne ↦ absurd rfl hne, (Except.ok.inj h).symm⟩
  | some text =>
    have hput := eq_some_of_getD_eq_ok h
    rw [withPassword?] at hput
    split at hput
    · cases hput
    · next hcan =>
      rw [if_neg (hne text rfl)] at hput
      exact ⟨fun _ ↦ by simpa using hcan, (Option.some.inj hput).symm⟩

private theorem putUsername_eq_plainText (u : Url) (credential : Option Credential) :
    putUsername u credential =
      putUsername u ((credential.bind Credential.plainText?).map .plain) := by
  rcases credential with _ | (_ | _) <;> rfl

private theorem putPassword_eq_plainText (u : Url) (credential : Option Credential) :
    putPassword u credential =
      putPassword u ((credential.bind Credential.plainText?).map .plain) := by
  rcases credential with _ | (_ | _) <;> rfl

/-- The credentials that are spelled out are put into the URL of an index, which can carry them if
there are any. -/
theorem exists_of_urlOf (huser : i.usernameCredential.bind Credential.plainText? = user)
    (hpassword : i.passwordCredential.bind Credential.plainText? = password)
    (h : urlOf i = .ok v) :
    ∃ u, Url.parse i.url = .ok u ∧ v = withPlain u user password ∧
      (credentials user password ≠ none → u.canCarryCredentials = true) := by
  have hne : ∀ text ∈ password, text ≠ "" := fun _ htext ↦
    Credential.ne_empty_of_bind_plainText?_pick (hpassword.trans htext)
  rw [urlOf] at h
  split at h
  · cases h
  · next u hparse =>
    have hkept : u.canCarryCredentials = true → ∀ c ∈ u.username, keptUserinfo c = true := by
      intro hcan
      rcases (isHosted_of_parse hparse).2 with hhosted | ⟨hbare, -⟩
      · obtain ⟨k, host, l, hparts⟩ := hhosted.exists_hasParts
        exact hparts.kept
      · rw [hbare.eq]
        exact List.forall_mem_nil _
    split at h
    · cases h
    · next named hnamed =>
      rw [putUsername_eq_plainText, huser] at hnamed
      rw [putPassword_eq_plainText, hpassword] at h
      obtain ⟨hcan, rfl⟩ := of_putUsername hkept hnamed
      obtain ⟨hcan', rfl⟩ := of_putPassword hne h
      refine ⟨u, hparse, rfl, fun hsome ↦ ?_⟩
      cases user with
      | some name => exact hcan (Option.some_ne_none name)
      | none =>
        cases password with
        | some text => exact hcan' (Option.some_ne_none text)
        | none => exact absurd rfl hsome

/-- A URL without a host gets one. -/
example : render ⟨"mailto:me", none, none, none, none, false⟩ =
    .ok "--extra-index-url 'mailto://me'" := by decide +kernel

end ContainerBuild.IndexOption
