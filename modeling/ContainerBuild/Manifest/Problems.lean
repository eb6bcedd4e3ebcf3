import ContainerBuild.Config.Resolve

/-!
# Problems of a manifest

All that is wrong with a manifest before anything is built: first the project, then each
target in the order of the names.
-/

namespace ContainerBuild

/-- What is wrong with a target. -/
inductive TargetProblem where
  | unknownFlavor (flavor : String)
  | pythonVersion (e : VersionError)
  | exclusiveOptions
  | lockPath (path : String) (flaw : LockPathFlaw)
  | unknownExtra (extra : String)
  | indexUrl (url : String) (e : UrlError)
  | secretId (url id : String)
  | incompleteFile (field : String)
  | checksum (field src : String)
deriving DecidableEq, Repr

/-- The wording of a target's problem. -/
def TargetProblem.message : TargetProblem → String
  | .unknownFlavor flavor => "unknown flavor '" ++ flavor ++ "' (expected debian or alpine)"
  | .pythonVersion e => "python_version: " ++ e.message
  | .exclusiveOptions => "requirements and extras are mutually exclusive"
  | .lockPath path flaw => "requirements '" ++ path ++ "': " ++ flaw.message
  | .unknownExtra extra => "unknown extra '" ++ extra ++ "'"
  | .indexUrl url e => "index url '" ++ url ++ "': " ++ e.message
  | .secretId url id => "index '" ++ url ++ "': invalid secret id '" ++ id ++ "'"
  | .incompleteFile field => field ++ " entry needs both src and dst"
  | .checksum field src => field ++ " entry '" ++ src ++ "' cannot carry a checksum"

/-- What is wrong with a manifest. -/
inductive Problem where
  | emptyName
  | requiresPython (e : VersionError)
  | target (name : String) (problem : TargetProblem)
deriving DecidableEq, Repr

/-- The wording of a problem. -/
def Problem.message : Problem → String
  | .emptyName => "project name must not be empty"
  | .requiresPython e => "requires-python: " ++ e.message
  | .target name problem => "target '" ++ name ++ "': " ++ problem.message

namespace Target

/-- The problems with the flavor. -/
def flavorProblems (t : Target) : List TargetProblem :=
  match t.flavor with
  | none => []
  | some flavor =>
    match Flavor.parse flavor with
    | .ok _ => []
    | .error _ => [.unknownFlavor flavor]

/-- The problems with the interpreter version. -/
def versionProblems (t : Target) : List TargetProblem :=
  match t.pythonVersion with
  | none => []
  | some version =>
    match Version.parse version with
    | .ok _ => []
    | .error e => [.pythonVersion e]

/-- The problems with the lock file. -/
def lockProblems (t : Target) : List TargetProblem :=
  match t.lockPath? with
  | none => []
  | some path =>
    (if t.extras.isEmpty then [] else [.exclusiveOptions]) ++
      ((LockPath.flaw? path).map (.lockPath path)).toList

/-- The extras that the project does not declare. -/
def extraProblems (d : Declaration) (t : Target) : List TargetProblem :=
  (t.extras.filter fun extra ↦ (d.group? extra).isNone).map .unknownExtra

/-- The problems with an index. -/
def indexProblems (i : PackageIndex) : List TargetProblem :=
  (match Url.parse i.url with
    | .ok _ => []
    | .error e => [.indexUrl i.url e]) ++
    (i.secretIds.filter (!isSecretId ·)).map (.secretId i.url)

/-- The problems with a file entry of a list. -/
def fileProblems (l : FileList) (f : FileSpec) : List TargetProblem :=
  (if f.isComplete then [] else [.incompleteFile l.field]) ++
    (if f.checksum.isSome && !l.fetched then [.checksum l.field f.src] else [])

/-- The problems of a target in a project. -/
def problems (d : Declaration) (t : Target) : List TargetProblem :=
  t.flavorProblems ++ t.versionProblems ++ t.lockProblems ++ t.extraProblems d ++
    t.indices.flatMap indexProblems ++
    t.fileLists.flatMap fun l ↦ l.specs.flatMap (fileProblems l)

end Target

/-- The problems of a manifest. -/
def Manifest.problems (m : Manifest) : List Problem :=
  let project := m.declaration
  (if project.name = "" then [.emptyName] else []) ++
    (match Constraint.parse project.requiresPython with
      | .ok _ => []
      | .error e => [.requiresPython e]) ++
    m.targets.entries.flatMap fun (name, target) ↦
      (target.problems project).map (.target name)

end ContainerBuild
