import ContainerBuild.Json.Basic
import ContainerBuild.Packages
import ContainerBuild.Script.Basic
import ContainerBuild.Script.IndexOption
import ContainerBuild.Template.Expand

/-!
# Compiling a configuration

The instructions of both stages in a fixed order, so that what changes least comes
first. The builder installs the dependencies and the project; the runtime stage takes
what was installed and runs it as an unprivileged user.
-/

namespace ContainerBuild

/-- What a template stands for in an image. -/
inductive TemplateField where
  | env (key : String)
  | label (key : String)
deriving DecidableEq, Repr

/-- The wording of a field. -/
def TemplateField.name : TemplateField → String
  | .env key => "env '" ++ key ++ "'"
  | .label key => "label '" ++ key ++ "'"

/-- Why a configuration cannot be compiled. -/
inductive CompileError where
  | placeholder (target : String) (field : TemplateField) (e : TemplateError)
  | indexUrl (target url : String) (flaw : IndexFlaw)
deriving DecidableEq, Repr

/-- The wording of a compile error. -/
def CompileError.message : CompileError → String
  | .placeholder target field e =>
    "target '" ++ target ++ "': " ++ field.name ++ ": " ++ e.message
  | .indexUrl target url flaw =>
    "target '" ++ target ++ "': invalid index url '" ++ url ++ "': " ++ flaw.message

namespace Script

/-- An instruction without its stage. -/
abbrev Step := Keyword × String

/-- Puts instructions into a stage. -/
def inStage (stage : Stage) (steps : List Step) : Script :=
  steps.map fun (keyword, args) ↦ ⟨stage, keyword, args⟩

/-- The base image of a configuration. -/
def baseImage (c : Config) : String :=
  "docker.io/python:" ++ c.pythonVersion ++ "-" ++ c.flavor.imageTag

/-- A key with its value between double quotes. -/
def assignment (key value : String) : String := key ++ "=" ++ Quote.value value

/-- The paths of a file entry as a list of texts, in which blanks are safe. -/
def paths (f : FileSpec) : String := Json.quoteAll [f.src, f.dst]

/-- Copies a file. -/
def copyStep (f : FileSpec) : Step := (.copy, paths f)

/-- Fetches a file. -/
def addStep (f : FileSpec) : Step :=
  (.add, ((f.checksum.map fun checksum ↦ "--checksum=" ++ checksum ++ " ").getD "") ++ paths f)

/-- Copies files, then fetches files. -/
def fileSteps (copies adds : List FileSpec) : List Step :=
  copies.map copyStep ++ adds.map addStep

/-- The environment of the builder; a configuration may override it. -/
def builderEnv : Dict String :=
  .ofList
    [("PIP_DISABLE_PIP_VERSION_CHECK", "1"),
     ("PIP_NO_WARN_SCRIPT_LOCATION", "0"),
     ("PIP_USER", "1"),
     ("PYTHONPYCACHEPREFIX", "$HOME/.pycache")]

/-- The labels of every image; a configuration may override them. -/
def defaultLabels : Dict String :=
  .ofList
    [("org.opencontainers.image.description", "autogenerated by pyimage"),
     ("moby.buildkit.frontend", "pyimage"),
     ("pyimage.version", "v1")]

/-- The label with the authors of the project. -/
def authorsLabel : String := "org.opencontainers.image.authors"

/-- The mount that keeps what the installer downloads. -/
def cacheMount : String := "--mount=type=cache,target=/root/.cache"

/-- The mount that gives access to keys. -/
def sshMount : String := "--mount=type=ssh,required=true"

/-- Where the lock file is mounted. -/
def lockTarget : String := "/tmp/requirements.txt"

/-- Where the project is copied to. -/
def projectDir : String := "/projectdir"

/-- The mount of a lock file. -/
def lockMount (path : String) : String :=
  "--mount=type=bind,source=" ++ path ++ ",target=" ++ lockTarget

/-- The mount of a secret. -/
def secretMount (id : String) : String := "--mount=type=secret,id=" ++ id

/-- Lets the shell connect to hosts that it does not know. -/
def sshCommand : String := "GIT_SSH_COMMAND='ssh -o StrictHostKeyChecking=no'"

/-- Drops tests and bytecode from what was installed, and strips shared objects. -/
def cleanup : String :=
  "find /root/.local/lib/python*/ -name 'tests' -exec rm -r '\x7b\x7d' + && " ++
    "find /root/.local/lib/python*/site-packages/ -name '*.so' " ++
    "-exec sh -c 'file \"\x7b\x7d\" | grep -q \"not stripped\" && strip -s \"\x7b\x7d\"' \\; && " ++
    "find /root/.local/lib/python*/ -type f -name '*.pyc' -delete && " ++
    "find /root/.local/lib/python*/ -type d -name '__pycache__' -delete"

/-- The secrets that indices read, each once. -/
def secretIds (indices : List PackageIndex) : List String :=
  (indices.flatMap (·.secretIds)).eraseDups

/-- The options for all indices, up to the first that cannot be written. -/
def indexOptions (label : String) : List PackageIndex → Except CompileError (List String)
  | [] => .ok []
  | i :: rest =>
    match IndexOption.render i with
    | .error flaw => .error (.indexUrl label i.url flaw)
    | .ok options => (indexOptions label rest).map (options :: ·)

/-- The mounts and settings of the installation of dependencies. -/
def installMounts (c : Config) : List String :=
  cacheMount :: (c.requirements.map lockMount).toList ++
    (secretIds c.indices).map secretMount ++
    (if c.transport.ssh then [sshMount, sshCommand] else [])

/-- What the installation of dependencies installs. -/
def installSubjects (c : Config) : List String :=
  match c.requirements with
  | some _ => ["-r " ++ lockTarget]
  | none => c.dependencies.map Quote.shellWord

/-- The installation of dependencies, if there are any. -/
def installDependencies (c : Config) : Except CompileError (List Step) :=
  if c.requirements.isNone && c.dependencies.isEmpty then .ok []
  else
    (indexOptions c.label c.indices).map fun options ↦
      [(.run, " ".intercalate (installMounts c ++
        ["python -m pip install --user --retries 2"] ++ options ++ installSubjects c))]

/-- The instructions of the builder. -/
def builderSteps (c : Config) : Except CompileError (List Step) :=
  (installDependencies c).map fun install ↦
    [(.from, baseImage c ++ " AS builder")] ++
      (Packages.buildInstall c.flavor c.buildDeps).toList.map (.run, ·) ++
      (builderEnv.merge c.env).entries.map (fun (key, value) ↦ (.env, assignment key value)) ++
      fileSteps c.copyFilesBeforeBuild c.addFilesBeforeBuild ++
      install ++
      [(.copy, ". " ++ projectDir),
       (.run, cacheMount ++ " python -m pip install --user --no-deps " ++ projectDir),
       (.run, Packages.stripToolsInstall c.flavor ++ " && " ++ cleanup)]

/-- Assignments with the parameters put into their values, up to the first value that is
no template. -/
def assignments (label : String) (keyword : Keyword) (field : String → TemplateField)
    (params : Dict String) : List (String × String) → Except CompileError (List Step)
  | [] => .ok []
  | (key, value) :: rest =>
    match Template.expand value params with
    | .error e => .error (.placeholder label (field key) e)
    | .ok text =>
      (assignments label keyword field params rest).map ((keyword, assignment key text) :: ·)

/-- The label with the authors, if there are any. -/
def authorSteps (c : Config) : List Step :=
  if c.authors.isEmpty then []
  else [(.label, assignment authorsLabel (", ".intercalate (c.authors.map Author.render)))]

/-- The number of the user and its group, as instructions write it. -/
def owner : String := Packages.userId ++ ":" ++ Packages.userId

/-- A list of texts as an instruction, unless it is empty. -/
def execStep (keyword : Keyword) (texts : List String) : List Step :=
  if texts.isEmpty then [] else [(keyword, Json.quoteAll texts)]

/-- The instructions of the runtime stage. -/
def runtimeSteps (c : Config) (params : Dict String) : Except CompileError (List Step) := do
  let env ← assignments c.label .env .env params c.env.entries
  let labels ← assignments c.label .label .label params (defaultLabels.merge c.labels).entries
  return [(.from, baseImage c)] ++
    (Packages.runtimeInstall c.flavor c.systemDeps).toList.map (.run, ·) ++
    [(.run, Packages.createUser c.flavor),
     (.user, owner),
     (.copy, "--from=builder --chown=" ++ owner ++ " /root/.local " ++ Packages.userHome ++
       "/.local"),
     (.env, "PATH=$PATH:" ++ Packages.userHome ++ "/.local/bin")] ++
    fileSteps c.copyFiles c.addFiles ++
    execStep .entrypoint c.entrypoint ++ execStep .cmd c.command ++
    env ++ labels ++ authorSteps c

/-- The instructions of a stage. -/
def compileStage (c : Config) (params : Dict String) (stage : Stage) :
    Except CompileError Script :=
  match stage with
  | .builder => (builderSteps c).map (inStage .builder)
  | .runtime => (runtimeSteps c params).map (inStage .runtime)

/-- The script of a configuration, with the parameters put into the values of the
runtime environment and of the labels. -/
def compile (c : Config) (params : Dict String) : Except CompileError Script := do
  let builder ← compileStage c params .builder
  let runtime ← compileStage c params .runtime
  return builder ++ runtime

end Script

end ContainerBuild
