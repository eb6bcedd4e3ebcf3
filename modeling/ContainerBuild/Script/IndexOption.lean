import ContainerBuild.Config.Basic
import ContainerBuild.Quote
import ContainerBuild.Url.Basic

/-!
# Index options

The options of the installer for one package index. A literal credential is encoded
into the URL. A secret is read while the image is built, and so the URL stands between
double quotes; without secrets it is a plain shell word.
-/

namespace ContainerBuild

/-- Why an index cannot be written. -/
inductive IndexFlaw where
  | url (e : UrlError)
  | noCredentials
deriving DecidableEq, Repr

/-- The wording of a flaw. -/
def IndexFlaw.message : IndexFlaw → String
  | .url e => e.message
  | .noCredentials => "url cannot carry credentials"

namespace IndexOption

/-- A piece of a URL: a text, or the content of a secret. -/
inductive Piece where
  | literal (text : String)
  | secret (id : String)
deriving DecidableEq, Repr

/-- The shell expression that reads a secret and encodes it for a URL. -/
def secretExpression (id : String) : String :=
  "$(tr -d '\\n' < /run/secrets/" ++ id ++ " | jq -sRr @uri)"

/-- Puts the literal user name into a URL. -/
def putUsername (u : Url) : Option Credential → Except IndexFlaw Url
  | some (.plain name) => ((u.withUsername? name).map .ok).getD (.error .noCredentials)
  | _ => .ok u

/-- Puts the literal password into a URL. -/
def putPassword (u : Url) : Option Credential → Except IndexFlaw Url
  | some (.plain password) => ((u.withPassword? password).map .ok).getD (.error .noCredentials)
  | _ => .ok u

/-- The URL of an index with its literal credentials. -/
def urlOf (i : PackageIndex) : Except IndexFlaw Url :=
  match Url.parse i.url with
  | .error e => .error (.url e)
  | .ok u =>
    match putUsername u i.usernameCredential with
    | .error e => .error e
    | .ok u => putPassword u i.passwordCredential

/-- The pieces for the user name. -/
def usernamePieces (u : Url) : Option Credential → List Piece
  | some (.secret id) => [.secret id]
  | some (.plain _) => [.literal (String.ofList u.username)]
  | none => []

/-- The pieces for the password. -/
def passwordPieces (u : Url) : Option Credential → List Piece
  | some (.secret id) => [.literal ":", .secret id]
  | some (.plain _) => [.literal (":" ++ String.ofList (u.password.getD []))]
  | none => []

/-- The pieces of the URL of an index. -/
def pieces (i : PackageIndex) (u : Url) : List Piece :=
  let user := i.usernameCredential
  let password := i.passwordCredential
  .literal (u.scheme ++ "://") :: usernamePieces u user ++ passwordPieces u password ++
    (if user.isSome || password.isSome then [.literal "@"] else []) ++
    [.literal (String.ofList u.fromHost)]

/-- A piece between double quotes. -/
def Piece.inQuotes : Piece → String
  | .literal text => Quote.literal text
  | .secret id => secretExpression id

/-- The text of a piece that is not read from a secret. -/
def Piece.text : Piece → String
  | .literal text => text
  | .secret id => secretExpression id

/-- The shell word for the URL of an index. -/
def word (i : PackageIndex) (u : Url) : String :=
  if i.usesSecrets then
    "\"" ++ String.join ((pieces i u).map Piece.inQuotes) ++ "\""
  else Quote.shellWord (String.join ((pieces i u).map Piece.text))

/-- The options for an index. -/
def render (i : PackageIndex) : Except IndexFlaw String :=
  match urlOf i with
  | .error e => .error e
  | .ok u =>
    .ok ("--extra-index-url " ++ word i u ++
      if i.trust then " --trusted-host " ++ Quote.shellWord (String.ofList u.hostAndPort) else "")

end IndexOption

end ContainerBuild
