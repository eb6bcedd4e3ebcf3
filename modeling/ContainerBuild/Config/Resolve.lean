import ContainerBuild.Config.Basic
import ContainerBuild.LockPath
import ContainerBuild.Url.Basic
import ContainerBuild.Version.Choice

/-!
# Resolving a configuration

Selects a target, chooses the interpreter version, computes the dependencies and checks
what the target says. The checks are made in a fixed order, and the first that fails
decides.
-/

namespace ContainerBuild

/-- What a build context tells: the interpreter version that it pins, which may be
blank, and the lines of its files. Failures are the texts of the reader. -/
structure Context where
  pinned : Except String String
  lines : String → Except String (List String)

/-- The context of which nothing is known. -/
def Context.none : Context where
  pinned := .ok ""
  lines path := .error ("no build context to read " ++ path)

/-- What is wrong with a file entry. -/
inductive FileFlaw where
  | incomplete
  | checksum
deriving DecidableEq, Repr

/-- The wording of a flaw. -/
def FileFlaw.message : FileFlaw → String
  | .incomplete => "needs both src and dst"
  | .checksum => "checksum is only allowed on add entries"

/-- Why no configuration can be resolved. All but the first name the target. -/
inductive ResolveError where
  | unknownTarget (target : String) (available : List String)
  | unknownFlavor (target flavor : String)
  | exclusiveOptions (target : String)
  | invalidLockPath (target path : String) (flaw : LockPathFlaw)
  | pinnedVersion (reason : String)
  | version (target : String) (e : VersionError)
  | lockFile (target path reason : String)
  | unknownExtra (target extra : String)
  | invalidIndex (target url : String) (e : UrlError)
  | invalidSecretId (target url id : String)
  | invalidFileSpec (target field src : String) (flaw : FileFlaw)
deriving DecidableEq, Repr

namespace ResolveError

/-- A message about a target. -/
def about (target text : String) : String := "target '" ++ target ++ "': " ++ text

/-- The wording of a resolve error. -/
def message : ResolveError → String
  | .unknownTarget target available =>
    "unknown target '" ++ target ++ "' (available: " ++
      (if available.isEmpty then "none" else ", ".intercalate available) ++ ")"
  | .unknownFlavor target flavor =>
    about target ("unknown flavor '" ++ flavor ++ "' (expected debian or alpine)")
  | .exclusiveOptions target => about target "requirements and extras are mutually exclusive"
  | .invalidLockPath target path flaw =>
    about target ("invalid lock file path '" ++ path ++ "': " ++ flaw.message)
  | .pinnedVersion reason => "failed to read pinned python version: " ++ reason
  | .version target e => about target e.message
  | .lockFile target path reason =>
    about target ("failed to read lock file " ++ path ++ ": " ++ reason)
  | .unknownExtra target extra => about target ("unknown extra '" ++ extra ++ "'")
  | .invalidIndex target url e =>
    about target ("invalid index url '" ++ url ++ "': " ++ e.message)
  | .invalidSecretId target url id =>
    about target ("index '" ++ url ++ "': invalid secret id '" ++ id ++
      "' (allowed: letters, digits, '_', '.', '-')")
  | .invalidFileSpec target field src flaw =>
    about target (field ++ " entry '" ++ src ++ "': " ++ flaw.message)

end ResolveError

/-- Whether a character may stand in the name of a build secret. -/
def isSecretIdChar (c : Char) : Bool :=
  ('a' ≤ c && c ≤ 'z') || ('A' ≤ c && c ≤ 'Z') || Text.isDigit c ||
    c = '_' || c = '.' || c = '-'

/-- Whether a text can name a build secret. -/
def isSecretId (id : String) : Bool := !id.toList.isEmpty && id.toList.all isSecretIdChar

/-- A list of file entries under its name in a manifest, and whether its files are
fetched. -/
structure FileList where
  field : String
  specs : List FileSpec
  fetched : Bool

/-- The lists of file entries of a target, in the order in which they are checked. -/
def Target.fileLists (t : Target) : List FileList :=
  [⟨"copy_files", t.copyFiles, false⟩,
   ⟨"add_files", t.addFiles, true⟩,
   ⟨"copy_files_before_build", t.copyFilesBeforeBuild, false⟩,
   ⟨"add_files_before_build", t.addFilesBeforeBuild, true⟩]

/-- Whether a file entry says both where from and where to. -/
def FileSpec.isComplete (f : FileSpec) : Bool :=
  (Text.nonBlank? f.src).isSome && (Text.nonBlank? f.dst).isSome

namespace Config

/-- The target that is asked for, or the first one. A blank request asks for none. -/
def selectTarget (targets : Dict Target) (requested : Option String) :
    Except ResolveError (Option String × Target) :=
  match requested.bind Text.nonBlank? with
  | some name =>
    match targets.get? name with
    | some target => .ok (some name, target)
    | none => .error (.unknownTarget name targets.keys)
  | none =>
    match targets.entries with
    | [] => .ok (none, {})
    | (name, target) :: _ => .ok (some name, target)

/-- The flavor of a target. -/
def flavorOf (label : String) (t : Target) : Except ResolveError Flavor :=
  match Flavor.parse (t.flavor.getD "") with
  | .ok flavor => .ok flavor
  | .error name => .error (.unknownFlavor label name)

/-- The path of the lock file of a target, which excludes extras. -/
def lockPathOf (label : String) (t : Target) : Except ResolveError (Option String) :=
  match t.lockPath? with
  | none => .ok none
  | some path =>
    if !t.extras.isEmpty then .error (.exclusiveOptions label)
    else
      match LockPath.flaw? path with
      | some flaw => .error (.invalidLockPath label path flaw)
      | none => .ok (some path)

/-- The version that a target asks for, or else the one that the context pins. -/
def explicitVersion (t : Target) (ctx : Context) : Except ResolveError String :=
  match t.pythonVersion.bind Text.nonBlank? with
  | some version => .ok version
  | none =>
    match ctx.pinned with
    | .ok version => .ok version
    | .error reason => .error (.pinnedVersion reason)

/-- The interpreter version of a build. -/
def pythonVersionOf (label constraint : String) (t : Target) (ctx : Context) :
    Except ResolveError String :=
  match explicitVersion t ctx with
  | .error e => .error e
  | .ok explicit =>
    match Version.choose constraint (some explicit) with
    | .ok version => .ok version
    | .error e => .error (.version label e)

/-- The dependencies in the lines of a lock file: no blank lines and no comments, each
once. -/
def lockedDependencies (lines : List String) : List String :=
  ((lines.filterMap Text.nonBlank?).filter fun line ↦ line.toList.head? ≠ some '#').eraseDups

/-- The dependencies of the groups that are asked for, in the order of asking. -/
def groupDependencies (label : String) (d : Declaration) :
    List String → Except ResolveError (List String)
  | [] => .ok []
  | extra :: rest =>
    match d.group? extra with
    | none => .error (.unknownExtra label extra)
    | some group => (groupDependencies label d rest).map (group ++ ·)

/-- The dependencies of a build, each once. -/
def dependenciesOf (label : String) (d : Declaration) (t : Target) (ctx : Context)
    (lockPath : Option String) : Except ResolveError (List String) :=
  match lockPath with
  | some path =>
    match ctx.lines path with
    | .ok lines => .ok (lockedDependencies lines)
    | .error reason => .error (.lockFile label path reason)
  | none =>
    (groupDependencies label d t.extras).map fun groups ↦
      ((d.dependencies ++ groups).map Text.trim).eraseDups

/-- What is wrong with an index, if anything. -/
def indexFlaw? (label : String) (i : PackageIndex) : Option ResolveError :=
  match Url.parse i.url with
  | .error e => some (.invalidIndex label i.url e)
  | .ok _ => (i.secretIds.find? (!isSecretId ·)).map (.invalidSecretId label i.url)

/-- What is wrong with a file entry of a list, if anything. -/
def fileFlaw? (label : String) (l : FileList) (f : FileSpec) : Option ResolveError :=
  if !f.isComplete then some (.invalidFileSpec label l.field f.src .incomplete)
  else if f.checksum.isSome && !l.fetched then
    some (.invalidFileSpec label l.field f.src .checksum)
  else none

/-- The first thing that is wrong with the indices and the file entries of a target. -/
def targetFlaw? (label : String) (t : Target) : Option ResolveError :=
  (t.indices.findSome? (indexFlaw? label)).or
    (t.fileLists.findSome? fun l ↦ l.specs.findSome? (fileFlaw? label l))

/-- The configuration of a target once its flavor, its lock file and its version are known. -/
def complete (project : Declaration) (name : Option String) (target : Target) (ctx : Context)
    (flavor : Flavor) (requirements : Option String) (pythonVersion : String) :
    Except ResolveError Config := do
  let label := name.getD implicitTarget
  let dependencies ← dependenciesOf label project target ctx requirements
  match targetFlaw? label target with
  | some e => .error e
  | none =>
    let transport := Transport.scan dependencies target.indices
    .ok
      { name := project.name
        target := name
        pythonVersion
        flavor
        authors := project.authors
        dependencies
        requirements
        extras := target.extras
        buildDeps := Transport.extend target.buildDeps transport
        systemDeps := target.systemDeps
        env := target.env
        labels := target.labels
        indices := target.indices
        entrypoint := target.entrypoint
        command := target.command
        copyFiles := target.copyFiles
        addFiles := target.addFiles
        copyFilesBeforeBuild := target.copyFilesBeforeBuild
        addFilesBeforeBuild := target.addFilesBeforeBuild
        transport }

/-- The configuration of a target of a manifest in a context. -/
def resolve (m : Manifest) (requested : Option String) (ctx : Context) :
    Except ResolveError Config := do
  let project := m.declaration
  let (name, target) ← selectTarget m.targets requested
  let label := name.getD implicitTarget
  let flavor ← flavorOf label target
  let requirements ← lockPathOf label target
  let pythonVersion ← pythonVersionOf label project.requiresPython target ctx
  complete project name target ctx flavor requirements pythonVersion

end Config

end ContainerBuild
