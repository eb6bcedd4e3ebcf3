import ContainerBuild.Text.Blank

/-!
# Package indices

An additional place to install from. A credential is a build secret or a literal
text, and the secret wins when both are given.
-/

namespace ContainerBuild

/-- Where a credential comes from. -/
inductive Credential where
  /-- The name of a build secret. -/
  | secret (id : String)
  /-- A text that the manifest spells out. -/
  | plain (value : String)
deriving DecidableEq, Repr

/-- Whether a text that may be missing has something in it. -/
def Credential.isGiven (text : Option String) : Bool :=
  match text with
  | none => false
  | some s => Text.nonBlank? s != none

/-- The credential that two fields give. A blank field counts as absent. -/
def Credential.pick (secret plain : Option String) : Option Credential :=
  match secret.filter (fun s ↦ isGiven (some s)) with
  | some id => some (.secret id)
  | none => (plain.filter fun s ↦ isGiven (some s)).map .plain

/-- The name of the secret, when the credential is one. -/
def Credential.secretId? : Credential → Option String
  | .secret id => some id
  | .plain _ => none

/-- An additional package index. -/
structure PackageIndex where
  url : String
  username : Option String
  usernameSecret : Option String
  password : Option String
  passwordSecret : Option String
  /-- Whether the host is trusted without a certificate. -/
  trust : Bool
deriving DecidableEq, Repr, Inhabited

namespace PackageIndex

/-- The credential for the user name. -/
def usernameCredential (i : PackageIndex) : Option Credential :=
  Credential.pick i.usernameSecret i.username

/-- The credential for the password. -/
def passwordCredential (i : PackageIndex) : Option Credential :=
  Credential.pick i.passwordSecret i.password

/-- The secrets that an index reads, user name first. -/
def secretIds (i : PackageIndex) : List String :=
  [i.usernameCredential, i.passwordCredential].filterMap fun c ↦ c.bind Credential.secretId?

/-- Whether a credential is read from a secret. -/
def usesSecrets (i : PackageIndex) : Bool := !i.secretIds.isEmpty

end PackageIndex

end ContainerBuild
