import ContainerBuild.Text.Blank
import ContainerBuild.Text.Decimal
import ContainerBuild.Text.Lower
import ContainerBuild.Text.Split

/-!
# Platforms

A platform is an operating system, an architecture and perhaps a variant of it. The
names follow image registries: `x86_64` is `amd64`, `aarch64` is `arm64`, and a bare
`arm` is `arm/v7`.
-/

namespace ContainerBuild

/-- What an image is built for. -/
structure Platform where
  os : String
  architecture : String
  variant : Option String
deriving DecidableEq, Repr, Inhabited

/-- Why a text names no platform. -/
inductive PlatformFlaw where
  | emptyComponent
  | unexpectedCharacters (component : String)
  | tooManyComponents
deriving DecidableEq, Repr

/-- The wording of a flaw. -/
def PlatformFlaw.message : PlatformFlaw → String
  | .emptyComponent => "empty component"
  | .unexpectedCharacters component => "unexpected characters in '" ++ component ++ "'"
  | .tooManyComponents => "expected os/arch[/variant]"

/-- A text that names no platform, and why. -/
structure InvalidPlatform where
  input : String
  flaw : PlatformFlaw
deriving DecidableEq, Repr

/-- The wording of an invalid platform. -/
def InvalidPlatform.message (e : InvalidPlatform) : String :=
  "invalid platform '" ++ e.input ++ "': " ++ e.flaw.message

namespace Platform

/-- Whether a character may stand in a component. -/
def isNameChar (c : Char) : Bool :=
  ('a' ≤ c && c ≤ 'z') || ('A' ≤ c && c ≤ 'Z') || Text.isDigit c || c = '_' || c = '-'

/-- The operating systems that may be named without an architecture. -/
def knownSystems : List String :=
  ["linux", "windows", "darwin", "freebsd", "netbsd", "openbsd", "illumos", "solaris"]

/-- The registry name of an operating system in lower case. -/
def systemName (os : String) : String := if os = "macos" then "darwin" else os

/-- The registry names of an architecture and a variant in lower case. -/
def architectureName (architecture : String) (variant : Option String) :
    String × Option String :=
  if architecture ∈ ["x86_64", "x86-64", "amd64"] then
    ("amd64", if variant = some "v1" then none else variant)
  else if architecture ∈ ["aarch64", "arm64"] then
    ("arm64", if variant ∈ [some "8", some "v8"] then none else variant)
  else if architecture = "armhf" then ("arm", some "v7")
  else if architecture = "armel" then ("arm", some "v6")
  else if architecture = "arm" then
    match variant with
    | none => ("arm", some "v7")
    | some v => ("arm", some (if v ∈ ["5", "6", "7", "8"] then "v" ++ v else v))
  else if architecture ∈ ["i386", "i686", "x86", "386"] then ("386", none)
  else (architecture, variant)

/-- The platform with the given names, in any letter case and under any alias. -/
def ofNames (os architecture : String) (variant : Option String) : Platform :=
  let (architecture, variant) :=
    architectureName (Text.lower architecture) (variant.map Text.lower)
  ⟨systemName (Text.lower os), architecture, variant⟩

/-- The names, joined by slashes. -/
def render (p : Platform) : String :=
  match p.variant with
  | none => p.os ++ "/" ++ p.architecture
  | some variant => p.os ++ "/" ++ p.architecture ++ "/" ++ variant

/-- The machine at hand: its architecture goes by a name. -/
class Machine where
  architecture : String
  ne_empty : architecture ≠ ""
  isName : architecture.toList.all isNameChar = true

/-- A machine of 64-bit x86. -/
@[reducible] def Machine.x86 : Machine := ⟨"x86_64", by decide, by decide⟩

variable [Machine]

/-- The platform of the machine at hand: images are for linux. -/
def host : Platform := ofNames "linux" Machine.architecture none

/-- The platform of components in lower case, or what is wrong with them. -/
def ofComponents (parts : List String) : Except PlatformFlaw Platform :=
  if "" ∈ parts then .error .emptyComponent
  else
    match parts.find? (fun part ↦ !part.toList.all isNameChar) with
    | some part => .error (.unexpectedCharacters part)
    | none =>
      match parts with
      | [name] =>
        if systemName name ∈ knownSystems then .ok { host with os := systemName name }
        else .ok (ofNames "linux" name none)
      | [os, architecture] => .ok (ofNames os architecture none)
      | [os, architecture, variant] => .ok (ofNames os architecture (some variant))
      | _ => .error .tooManyComponents

/-- Reads one platform: a system, an architecture, or both and perhaps a variant. -/
def parse (text : String) : Except InvalidPlatform Platform :=
  let input := Text.trim text
  match ofComponents (Text.splitOn '/' (Text.lower input)) with
  | .ok p => .ok p
  | .error flaw => .error ⟨input, flaw⟩

/-- Reads platforms from left to right, up to the first that is invalid. -/
def parseAll : List String → Except InvalidPlatform (List Platform)
  | [] => .ok []
  | entry :: rest =>
    match parse entry with
    | .error e => .error e
    | .ok p => (parseAll rest).map (p :: ·)

/-- Reads a list between commas. Blank entries are skipped, and repeated platforms
keep their first place. -/
def parseList (list : String) : Except InvalidPlatform (List Platform) :=
  let entries := (Text.splitOn ',' list).filterMap Text.nonBlank?
  (parseAll entries).map List.eraseDups

end Platform

end ContainerBuild
