import ContainerBuild.Text.Blank
import ContainerBuild.Text.Split
import ContainerBuild.Url.Address
import ContainerBuild.Url.Domain
import ContainerBuild.Url.Percent

/-!
# URLs

Absolute URLs as browsers read them: tabs and line ends count for nothing, host names
become lower case, default ports and dots in paths vanish, and each part has its own
percent encoding.
-/

namespace ContainerBuild

/-- Why a text is no absolute URL. -/
inductive UrlError where
  | emptyHost
  | invalidDomain
  | invalidPort
  | invalidIpv4
  | invalidIpv6
  | invalidHostCharacter
  | relative
deriving DecidableEq, Repr

/-- The wording of a URL error. -/
def UrlError.message : UrlError → String
  | .emptyHost => "empty host"
  | .invalidDomain => "invalid international domain name"
  | .invalidPort => "invalid port number"
  | .invalidIpv4 => "invalid IPv4 address"
  | .invalidIpv6 => "invalid IPv6 address"
  | .invalidHostCharacter => "invalid domain character"
  | .relative => "relative URL without a base"

namespace Url

/-- The host of a URL. -/
inductive Host where
  /-- A domain in its ASCII form, or an opaque name. -/
  | name (s : List Char)
  | ipv4 (address : Ipv4)
  | ipv6 (address : Ipv6)
deriving DecidableEq, Repr

/-- Whether a host is the empty name. -/
def Host.isEmpty (h : Host) : Bool := h = .name []

/-- The path of a URL: segments, or a text that means nothing to others. -/
inductive Path where
  | segments (l : List (List Char))
  | opaqueText (s : List Char)
deriving DecidableEq, Repr

/-- The kinds of schemes. -/
inductive SchemeKind where
  | file
  | special
  | other
deriving DecidableEq, Repr

/-- The kind of a scheme. -/
def SchemeKind.ofScheme (scheme : String) : SchemeKind :=
  if scheme = "file" then .file
  else if scheme ∈ ["http", "https", "ws", "wss", "ftp"] then .special
  else .other

/-- The port that a scheme has when none is written. -/
def defaultPort (scheme : String) : Option Nat :=
  if scheme ∈ ["http", "ws"] then some 80
  else if scheme ∈ ["https", "wss"] then some 443
  else if scheme = "ftp" then some 21
  else none

end Url

/-- An absolute URL. User name, password, path, query and fragment are encoded. -/
structure Url where
  scheme : String
  username : List Char
  password : Option (List Char)
  host : Option Url.Host
  port : Option Nat
  path : Url.Path
  query : Option (List Char)
  fragment : Option (List Char)
deriving DecidableEq, Repr

namespace Url

/-- Whether backslashes separate like slashes. -/
def SchemeKind.isSpecial (k : SchemeKind) : Bool := k ≠ .other

/-- Whether a character separates the segments of a path. -/
def isSlash (k : SchemeKind) (c : Char) : Bool := c = '/' || (k.isSpecial && c = '\\')

/-- Whether a character ends the authority of a URL. -/
def endsAuthority (k : SchemeKind) (c : Char) : Bool := isSlash k c || c = '?' || c = '#'

/-- Whether a character ends a path. -/
def endsPath (c : Char) : Bool := c = '?' || c = '#'

/-- Drops controls and spaces at both ends, and tabs and line ends everywhere. -/
def clean (s : List Char) : List Char :=
  let isEdge (c : Char) : Bool := c.toNat ≤ 0x20
  (Text.dropEndWhile isEdge (s.dropWhile isEdge)).filter fun c ↦
    !(c = '\t' || c = '\n' || c = '\r')

/-- Reads the characters of a scheme up to its colon. -/
def schemeRest? (acc : List Char) : List Char → Option (String × List Char)
  | [] => none
  | c :: rest =>
    if c = ':' then some (String.ofList acc.reverse, rest)
    else if c.isAlphanum || c = '+' || c = '-' || c = '.' then
      schemeRest? (c.toLower :: acc) rest
    else none

/-- Reads a scheme: a letter and what may follow it, up to a colon. -/
def scheme? : List Char → Option (String × List Char)
  | [] => none
  | c :: rest => if c.isAlpha then schemeRest? [] (c :: rest) else none

/-- What stands before and behind the last `@`. -/
def cutLastAt (s : List Char) : Option (List Char × List Char) :=
  (Text.cutAt '@' s.reverse).map fun (behind, before) ↦ (before.reverse, behind.reverse)

/-- The encoded user name and password before an `@`; an empty password counts as none. -/
def userinfo (s : List Char) : List Char × Option (List Char) :=
  match Text.cutAt ':' s with
  | none => (encode keptUserinfo s, none)
  | some (name, password) =>
    (encode keptUserinfo name,
      if password.isEmpty then none else some (encode keptUserinfo password))

/-- Cuts a host from what follows it: a colon ends it, but not between brackets. -/
def cutHost (inBrackets : Bool) : List Char → List Char × List Char
  | [] => ([], [])
  | c :: rest =>
    if c = ':' && !inBrackets then ([], c :: rest)
    else
      let inside := if c = '[' then true else if c = ']' then false else inBrackets
      let (host, behind) := cutHost inside rest
      (c :: host, behind)

/-- Reads an address of version 6 between brackets. -/
def bracketed (s : List Char) : Except UrlError Host :=
  match s.reverse with
  | ']' :: inner =>
    match Ipv6.parse? inner.reverse with
    | some a => .ok (.ipv6 a)
    | none => .error .invalidIpv6
  | _ => .error .invalidIpv6

/-- Reads the host of a special scheme. -/
def Host.parse (s : List Char) : Except UrlError Host :=
  match s with
  | '[' :: rest => bracketed rest
  | s =>
    match (decode? s).bind domainToAscii? with
    | none => .error .invalidDomain
    | some domain =>
      if domain.isEmpty then .error .emptyHost
      else if endsInNumber domain then
        match Ipv4.parse? domain with
        | some a => .ok (.ipv4 a)
        | none => .error .invalidIpv4
      else .ok (.name domain)

/-- Whether a character may not stand in an opaque host. -/
def isForbiddenInHost (c : Char) : Bool :=
  c.toNat = 0 || c = '\t' || c = '\n' || c = '\r' || c = ' ' || c = '#' || c = '/' || c = ':' ||
    c = '<' || c = '>' || c = '?' || c = '@' || c = '[' || c = '\\' || c = ']' || c = '^' ||
    c = '|'

/-- Reads the host of another scheme; it may be empty. -/
def Host.parseOpaque (s : List Char) : Except UrlError Host :=
  match s with
  | '[' :: rest => bracketed rest
  | s =>
    if s.any isForbiddenInHost then .error .invalidHostCharacter
    else .ok (.name (encode keptOpaque s))

/-- The largest port. -/
def portLimit : Nat := Nat.pow 2 16 - 1

/-- Reads a port behind its colon. A default port and an empty one count as none; a
backslash may end a port in any scheme. -/
def readPort (scheme : String) (s : List Char) : Except UrlError (Option Nat × List Char) :=
  let digits := s.takeWhile Text.isDigit
  let rest := s.dropWhile Text.isDigit
  let n := Text.digitsValue digits
  if portLimit < n then .error .invalidPort
  else if !rest.isEmpty && rest.head? ≠ some '\\' then .error .invalidPort
  else .ok (if digits.isEmpty || defaultPort scheme = some n then none else some n, rest)

/-- Whether a segment stands for the directory itself. -/
def isSingleDot (s : List Char) : Bool :=
  s = ['.'] || s.map Char.toLower = ['%', '2', 'e']

/-- Whether a segment stands for the directory above. -/
def isDoubleDot (s : List Char) : Bool :=
  let t := s.map Char.toLower
  t = ['.', '.'] || t = ['.', '%', '2', 'e'] || t = ['%', '2', 'e', '.'] ||
    t = ['%', '2', 'e', '%', '2', 'e']

/-- Whether a text names a drive: a letter and a colon or a bar. -/
def isDrive : List Char → Bool
  | [a, b] => a.isAlpha && (b = ':' || b = '|')
  | _ => false

/-- Whether a segment cannot be left for the directory above. It is a drive, in any scheme, and
a backslash ends its name. -/
def holdsDrive (s : List Char) : Bool := isDrive (s.takeWhile (· ≠ '\\'))

/-- The segments of the directory above, all in reverse. -/
def above (done : List (List Char)) : List (List Char) :=
  if done.head?.any holdsDrive then done else done.drop 1

/-- A segment behind others. The drive of a file is written with a colon. -/
def settle (k : SchemeKind) (done : List (List Char)) (piece : List Char) : List Char :=
  if k = .file && done.isEmpty && isDrive piece then piece.take 1 ++ [':']
  else encode keptPath piece

/-- The segments of a path from its pieces between slashes; `done` holds those before, in
reverse. -/
def normalize (k : SchemeKind) (done : List (List Char)) : List (List Char) → List (List Char)
  | [] => done.reverse
  | piece :: rest =>
    let last := if rest.isEmpty then [[]] else []
    if isDoubleDot piece then normalize k (last ++ above done) rest
    else if isSingleDot piece then normalize k (last ++ done) rest
    else normalize k (settle k done piece :: done) rest

/-- The segments of a path without the slash before it. -/
def segments (k : SchemeKind) (s : List Char) : List (List Char) :=
  normalize k [] (s.splitOnP (isSlash k))

/-- Drops the slash at the front, if there is one. -/
def dropSlash (k : SchemeKind) : List Char → List Char
  | c :: rest => if isSlash k c then rest else c :: rest
  | [] => []

/-- The path behind an authority. A special scheme has at least the root. -/
def pathBehindHost (k : SchemeKind) (s : List Char) : Path :=
  if s.isEmpty && !k.isSpecial then .segments []
  else .segments (segments k (dropSlash k s))

/-- Drops empty segments at the front, but not the last one. -/
def dropEmpty : List (List Char) → List (List Char)
  | [] :: s :: rest => dropEmpty (s :: rest)
  | l => l

/-- Reads the query and the fragment behind a path. -/
def queryAndFragment (k : SchemeKind) (s : List Char) :
    Option (List Char) × Option (List Char) :=
  let (before, fragment) := match Text.cutAt '#' s with
    | none => (s, none)
    | some (before, f) => (before, some (encode keptFragment f))
  match before with
  | '?' :: q =>
    (some (encode (if k.isSpecial then keptSpecialQuery else keptQuery) q), fragment)
  | _ => (none, fragment)

/-- Reads a URL behind the slashes that open its authority. -/
def withAuthority (scheme : String) (k : SchemeKind) (s : List Char) : Except UrlError Url := do
  let authority := s.takeWhile (fun c ↦ !endsAuthority k c)
  let tail := s.dropWhile (fun c ↦ !endsAuthority k c)
  let cut := cutLastAt authority
  let (user, hostAndPort) := match cut with
    | none => (([], none), authority)
    | some (user, rest) => (userinfo user, rest)
  if cut.any (·.1.isEmpty) && hostAndPort.isEmpty && !tail.isEmpty then throw .emptyHost
  let (hostText, rest) := cutHost false hostAndPort
  let host ←
    if k.isSpecial then
      if hostText.isEmpty then .error .emptyHost else Host.parse hostText
    else Host.parseOpaque hostText
  if host.isEmpty && !rest.isEmpty then throw .emptyHost
  let (port, rest) ← match rest with
    | ':' :: rest => readPort scheme rest
    | rest => pure (none, rest)
  if host.isEmpty && (!user.1.isEmpty || user.2.isSome) then throw .emptyHost
  let pathText := rest ++ tail.takeWhile (fun c ↦ !endsPath c)
  let (query, fragment) := queryAndFragment k (tail.dropWhile (fun c ↦ !endsPath c))
  return ⟨scheme, user.1, user.2, some host, port, pathBehindHost k pathText, query, fragment⟩

/-- Cuts the host from the path of a file URL. A drive is no host. -/
def cutFileHost (body : List Char) : List Char × List Char :=
  match body with
  | a :: b :: rest =>
    if isSlash .file a && isSlash .file b then
      let host := rest.takeWhile (fun c ↦ !isSlash .file c)
      if isDrive host then ([], rest)
      else (host, rest.dropWhile (fun c ↦ !isSlash .file c))
    else ([], body)
  | _ => ([], body)

/-- Whether a host is the machine itself, which also has every drive. -/
def isLocal (host : Host) (path : List (List Char)) : Bool :=
  host = .name "localhost".toList || path.head?.any isDrive

/-- The URL of a file. The machine itself is not named, and empty segments in front count for
nothing. -/
def ofFile (host : Host) (path : List (List Char)) (query fragment : Option (List Char)) : Url :=
  ⟨"file", [], none, some (if isLocal host path then .name [] else host), none,
    .segments (dropEmpty path), query, fragment⟩

/-- Reads a file URL behind its colon. -/
def file (s : List Char) : Except UrlError Url := do
  let body := s.takeWhile (fun c ↦ !endsPath c)
  let (query, fragment) := queryAndFragment .file (s.dropWhile (fun c ↦ !endsPath c))
  let (hostText, pathText) := cutFileHost body
  let host ← if hostText.isEmpty then pure (.name []) else Host.parse hostText
  return ofFile host (segments .file (dropSlash .file pathText)) query fragment

/-- Reads a URL of another scheme behind its colon. -/
def nonSpecial (scheme : String) (s : List Char) : Except UrlError Url :=
  match s with
  | '/' :: '/' :: rest => withAuthority scheme .other rest
  | s =>
    let pathText := s.takeWhile (fun c ↦ !endsPath c)
    let (query, fragment) := queryAndFragment .other (s.dropWhile (fun c ↦ !endsPath c))
    let path := match pathText with
      | '/' :: rest => Path.segments (segments .other rest)
      | text => Path.opaqueText (encode keptOpaque text)
    .ok ⟨scheme, [], none, none, none, path, query, fragment⟩

/-- Reads an absolute URL. -/
def parse (s : String) : Except UrlError Url :=
  match scheme? (clean s.toList) with
  | none => .error .relative
  | some (scheme, rest) =>
    match SchemeKind.ofScheme scheme with
    | .file => file rest
    | .special => withAuthority scheme .special (rest.dropWhile (isSlash .special))
    | .other => nonSpecial scheme rest

/-- The written form of a host. -/
def Host.render : Host → List Char
  | .name s => s
  | .ipv4 a => a.render.toList
  | .ipv6 a => '[' :: a.render.toList ++ [']']

/-- The written form of a path. -/
def Path.render : Path → List Char
  | .segments l => l.flatMap ('/' :: ·)
  | .opaqueText s => s

/-- The host and the port. -/
def hostAndPort (u : Url) : List Char :=
  (u.host.map Host.render).getD [] ++
    match u.port with
    | none => []
    | some n => ':' :: (Text.decimal n).toList

/-- The path behind the host. Without a host, a path that opens with two slashes gets a
dot before them, or they would open a host. -/
def pathText (u : Url) : List Char :=
  match u.host, u.path.render with
  | none, '/' :: '/' :: rest => '/' :: '.' :: '/' :: '/' :: rest
  | _, text => text

/-- Everything from the host on. -/
def fromHost (u : Url) : List Char :=
  u.hostAndPort ++ u.pathText ++
    (match u.query with
      | none => []
      | some q => '?' :: q) ++
    (match u.fragment with
      | none => []
      | some f => '#' :: f)

/-- Whether a user name and a password can stand before the host. -/
def canCarryCredentials (u : Url) : Bool :=
  u.host.any (fun h ↦ !h.isEmpty) && u.scheme ≠ "file"

/-- The URL with a user name, which is encoded unless it is the one that stands there. -/
def withUsername? (u : Url) (name : String) : Option Url :=
  if !u.canCarryCredentials then none
  else if u.username = name.toList then some u
  else some { u with username := encode keptUserinfo name.toList }

/-- The URL with a password; an empty one counts as none. -/
def withPassword? (u : Url) (password : String) : Option Url :=
  if !u.canCarryCredentials then none
  else if password = "" then some { u with password := none }
  else some { u with password := some (encode keptUserinfo password.toList) }

end Url

end ContainerBuild
