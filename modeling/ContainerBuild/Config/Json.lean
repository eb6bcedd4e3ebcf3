import ContainerBuild.Config.Basic
import ContainerBuild.Json.Basic
import ContainerBuild.Script.Basic

/-!
# Configurations and scripts as JSON

The members stand in the order of the fields. A member that an author, an index or a file
entry does not have is left out.
-/

namespace ContainerBuild

open Json (Value)

/-- A list of texts. -/
def Json.Value.ofTexts (texts : List String) : Value := .array (texts.map .text)

/-- A dictionary of texts. -/
def Json.Value.ofDict (d : Dict String) : Value :=
  .object (d.entries.map fun (key, value) ↦ (key, .text value))

/-- A text that may be missing. -/
def Json.Value.ofText? (text : Option String) : Value := (text.map .text).getD .null

/-- A member that is there when its text is. -/
def Json.member? (name : String) (text : Option String) : List (String × Value) :=
  (text.map fun s ↦ (name, Value.text s)).toList

/-- An author as JSON. -/
def Author.toJson (a : Author) : Value :=
  .object (("name", .text a.name) :: Json.member? "email" a.email)

/-- A file entry as JSON. -/
def FileSpec.toJson (f : FileSpec) : Value :=
  .object ([("src", .text f.src), ("dst", .text f.dst)] ++ Json.member? "checksum" f.checksum)

/-- A package index as JSON. -/
def PackageIndex.toJson (i : PackageIndex) : Value :=
  .object ([("url", .text i.url)] ++ Json.member? "username" i.username ++
    Json.member? "username_secret" i.usernameSecret ++ Json.member? "password" i.password ++
    Json.member? "password_secret" i.passwordSecret ++ [("trust", .boolean i.trust)])

/-- The ways of fetching dependencies as JSON. -/
def Transport.toJson (t : Transport) : Value :=
  .object [("ssh", .boolean t.ssh), ("git", .boolean t.git), ("secrets", .boolean t.secrets)]

/-- A configuration as JSON. -/
def Config.toJson (c : Config) : Value :=
  .object
    [("name", .text c.name),
     ("target", .ofText? c.target),
     ("python_version", .text c.pythonVersion),
     ("flavor", .text c.flavor.name),
     ("authors", .array (c.authors.map Author.toJson)),
     ("dependencies", .ofTexts c.dependencies),
     ("requirements", .ofText? c.requirements),
     ("extras", .ofTexts c.extras),
     ("build_deps", .ofTexts c.buildDeps),
     ("system_deps", .ofTexts c.systemDeps),
     ("env", .ofDict c.env),
     ("labels", .ofDict c.labels),
     ("indices", .array (c.indices.map PackageIndex.toJson)),
     ("entrypoint", .ofTexts c.entrypoint),
     ("command", .ofTexts c.command),
     ("copy_files", .array (c.copyFiles.map FileSpec.toJson)),
     ("add_files", .array (c.addFiles.map FileSpec.toJson)),
     ("copy_files_before_build", .array (c.copyFilesBeforeBuild.map FileSpec.toJson)),
     ("add_files_before_build", .array (c.addFilesBeforeBuild.map FileSpec.toJson)),
     ("transport", c.transport.toJson)]

/-- An instruction as JSON, with its members in ascending order. -/
def Instruction.toJson (i : Instruction) : Value :=
  .object [("args", .text i.args), ("keyword", .text i.keyword.name), ("stage", .text i.stage.name)]

/-- The digest and the instructions of a script as JSON. -/
def Script.graph (s : Script) : Value :=
  .object [("digest", .text s.digest), ("instructions", .array (s.map Instruction.toJson))]

end ContainerBuild
