import ContainerBuild.Config.Resolve
import ContainerBuild.Manifest.Decode
import ContainerBuild.Text.Utf8

/-!
# Files of a build context

A directory tree with the rules by which paths are looked up in it, and what a build
context reads from it: the pinned interpreter version, lock files, ignore patterns and
manifests.
-/

namespace ContainerBuild

/-- Why a file cannot be read as text. -/
inductive FileError where
  | notFound
  | isDirectory
  | notDirectory
  | invalidName
  | invalidText
deriving DecidableEq, Repr

/-- The wording of a file error. -/
def FileError.message : FileError → String
  | .notFound => "No such file or directory (os error 2)"
  | .isDirectory => "Is a directory (os error 21)"
  | .notDirectory => "Not a directory (os error 20)"
  | .invalidName => "file name contained an unexpected NUL byte"
  | .invalidText => "stream did not contain valid UTF-8"

/-- What stands at a path: the bytes of a file, or a directory. -/
inductive FileNode where
  | file (bytes : List UInt8)
  | directory
deriving DecidableEq, Repr

/-- A directory tree, as a list of paths relative to its root. The directories on the way
to a path are there as well. -/
structure FileTree where
  nodes : List (List String × FileNode)

namespace FileTree

/-- The tree with an empty root. -/
def empty : FileTree := ⟨[]⟩

/-- The parts of a path; empty ones and single dots count for nothing. -/
def parts (path : String) : List String :=
  (path.splitOn "/").filter fun part ↦ part ≠ "" && part ≠ "."

/-- What stands at a path from the root on. -/
def node? (t : FileTree) (path : List String) : Option FileNode :=
  match t.nodes.lookup path with
  | some node => some node
  | none =>
    if t.nodes.any (fun n ↦ path.isPrefixOf n.1) || path = [] then some .directory else none

/-- Walks from a directory along the parts of a path. Of what is above the root it is only
known that there are directories. -/
def walk (t : FileTree) (dir : List String) : List String → Except FileError FileNode
  | [] => .ok ((t.node? dir).getD .directory)
  | part :: rest =>
    if part = ".." then
      if dir ≠ [] then walk t dir.dropLast rest
      else if rest.all (· = "..") then .ok .directory
      else .error .notFound
    else
      match t.node? (dir ++ [part]) with
      | none => .error .notFound
      | some .directory => walk t (dir ++ [part]) rest
      | some (.file bytes) => if rest = [] then .ok (.file bytes) else .error .notDirectory

/-- What a path leads to. A path that ends in a slash or a dot leads to a directory. -/
def find (t : FileTree) (path : String) : Except FileError FileNode :=
  if path.toList.any (·.toNat = 0) then .error .invalidName
  else if path = "" || path.toList.head? = some '/' then .error .notFound
  else
    match t.walk [] (parts path) with
    | .ok (.file bytes) =>
      if (path.splitOn "/").getLast?.any fun part ↦ part = "" || part = "." then
        .error .notDirectory
      else .ok (.file bytes)
    | r => r

/-- The bytes of the file at a path. -/
def read (t : FileTree) (path : String) : Except FileError (List UInt8) :=
  match t.find path with
  | .ok (.file bytes) => .ok bytes
  | .ok .directory => .error .isDirectory
  | .error e => .error e

/-- The tree without a path and all below it. -/
def remove (t : FileTree) (path : String) : FileTree :=
  ⟨t.nodes.filter fun n ↦ !(parts path).isPrefixOf n.1⟩

/-- The tree with a file or a directory at a path. -/
def write (t : FileTree) (path : String) (node : FileNode) : FileTree :=
  ⟨t.nodes.filter (fun n ↦ n.1 ≠ parts path) ++ [(parts path, node)]⟩

end FileTree

/-- A failure to read a file, with the path that its message names. -/
structure FileFailure where
  error : FileError
  path? : Option String
deriving DecidableEq, Repr

/-- The wording of a failure. -/
def FileFailure.message (f : FileFailure) : String :=
  match f.path? with
  | none => f.error.message
  | some path => path ++ ": " ++ f.error.message

/-- A build context: the path of its directory, as messages name it, and how a file at a
path is read. -/
structure FileContext where
  root : String
  read : String → Except FileError (List UInt8)

namespace FileContext

/-- A path below the root. An absolute path stays as it is. -/
def pathOf (c : FileContext) (path : String) : String :=
  if path.toList.head? = some '/' || c.root = "" then path
  else if c.root.toList.getLast? = some '/' then c.root ++ path
  else c.root ++ "/" ++ path

/-- The text of a file. -/
def text (c : FileContext) (path : String) : Except FileError String :=
  match c.read (c.pathOf path) with
  | .error e => .error e
  | .ok bytes => ((Text.text? bytes).map .ok).getD (.error .invalidText)

/-- The text of a file; it is empty when there is no file. -/
def optionalText (c : FileContext) (path : String) : Except FileError String :=
  match c.text path with
  | .error .notFound => .ok ""
  | r => r

/-- The file that pins the interpreter version. -/
def versionFile : String := ".python-version"

/-- The file with the ignore patterns. -/
def ignoreFile : String := ".dockerignore"

/-- The interpreter version that the context pins; blank when it pins none. -/
def pinned (c : FileContext) : Except FileFailure String :=
  match c.optionalText versionFile with
  | .ok s => .ok (Text.firstLine s)
  | .error e => .error ⟨e, none⟩

/-- The lines of a file. -/
def lines (c : FileContext) (path : String) : Except FileFailure (List String) :=
  match c.text path with
  | .ok s => .ok (Text.lines s)
  | .error e => .error ⟨e, some (c.pathOf path)⟩

/-- The ignore patterns: no blank lines and no comments. -/
def ignorePatterns (c : FileContext) : Except FileFailure (List String) :=
  match c.optionalText ignoreFile with
  | .ok s =>
    .ok (((Text.lines s).filterMap Text.nonBlank?).filter fun line ↦
      line.toList.head? ≠ some '#')
  | .error e => .error ⟨e, none⟩

/-- The context as resolving sees it. -/
def toContext (c : FileContext) : Context where
  pinned := (c.pinned).mapError FileFailure.message
  lines path := (c.lines path).mapError FileFailure.message

end FileContext

/-- Why no manifest can be loaded. -/
inductive LoadError where
  | unreadable (path : String) (e : FileError)
  | decode (e : DecodeError)
deriving DecidableEq, Repr

/-- The wording of an error, apart from the syntax of a manifest. -/
def LoadError.message : LoadError → String
  | .unreadable path e => "failed to read " ++ path ++ ": " ++ e.message
  | .decode (.shape e) => e.message
  | .decode .malformed => ""

/-- Loads the manifest at a path of a context. -/
def FileContext.manifest (c : FileContext) (path : String) : Except LoadError Manifest :=
  match c.text path with
  | .error e => .error (.unreadable (c.pathOf path) e)
  | .ok s => (Manifest.decode s).mapError .decode

end ContainerBuild
