import ContainerBuild.Manifest.Basic
import ContainerBuild.Manifest.Record
import ContainerBuild.Toml.Reader

/-!
# Decoding manifests

Which fields each part of a manifest has. Unknown keys are ignored.
-/

namespace ContainerBuild

open Toml (Value RecordField)

/-- The fields of an author. -/
def Author.fields : List (RecordField Author) :=
  [.optional "name" Value.asText fun s a ↦ { a with name := s },
   .optional "email" Value.asText fun s a ↦ { a with email := some s }]

/-- Reads an author. -/
def Author.ofToml (v : Value) : Except ShapeError Author :=
  v.asRecord "Author" fields ⟨"", none⟩

/-- The fields of a file entry. -/
def FileSpec.fields : List (RecordField FileSpec) :=
  [.mandatory "src" Value.asText fun s f ↦ { f with src := s },
   .mandatory "dst" Value.asText fun s f ↦ { f with dst := s },
   .optional "checksum" Value.asText fun s f ↦ { f with checksum := some s }]

/-- Reads a file entry. -/
def FileSpec.ofToml (v : Value) : Except ShapeError FileSpec :=
  v.asRecord "FileSpec" fields ⟨"", "", none⟩

/-- The fields of a package index. -/
def PackageIndex.fields : List (RecordField PackageIndex) :=
  [.mandatory "url" Value.asText fun s i ↦ { i with url := s },
   .optional "username" Value.asText fun s i ↦ { i with username := some s },
   .optional "username_secret" Value.asText fun s i ↦ { i with usernameSecret := some s },
   .optional "password" Value.asText fun s i ↦ { i with password := some s },
   .optional "password_secret" Value.asText fun s i ↦ { i with passwordSecret := some s },
   .optional "trust" Value.asBoolean fun b i ↦ { i with trust := b }]

/-- Reads a package index. -/
def PackageIndex.ofToml (v : Value) : Except ShapeError PackageIndex :=
  v.asRecord "PackageIndex" fields ⟨"", none, none, none, none, false⟩

/-- Reads a list of texts. -/
def textsOfToml (v : Value) : Except ShapeError (List String) := v.asList Value.asText

/-- Reads a list of file entries. -/
def filesOfToml (v : Value) : Except ShapeError (List FileSpec) := v.asList FileSpec.ofToml

/-- The fields of a build target. -/
def Target.fields : List (RecordField Target) :=
  [.optional "flavor" Value.asText fun s t ↦ { t with flavor := some s },
   .optional "python_version" Value.asText fun s t ↦ { t with pythonVersion := some s },
   .optional "requirements" Value.asText fun s t ↦ { t with requirements := some s },
   .optional "extras" textsOfToml fun l t ↦ { t with extras := l },
   { RecordField.optional "env" (Value.asDict Value.asText) fun d t ↦ { t with env := d } with
     alias? := some "environment" },
   .optional "labels" (Value.asDict Value.asText) fun d t ↦ { t with labels := d },
   .optional "build_deps" textsOfToml fun l t ↦ { t with buildDeps := l },
   .optional "system_deps" textsOfToml fun l t ↦ { t with systemDeps := l },
   .optional "indices" (Value.asList PackageIndex.ofToml) fun l t ↦ { t with indices := l },
   .optional "entrypoint" textsOfToml fun l t ↦ { t with entrypoint := l },
   .optional "command" textsOfToml fun l t ↦ { t with command := l },
   .optional "copy_files" filesOfToml fun l t ↦ { t with copyFiles := l },
   .optional "add_files" filesOfToml fun l t ↦ { t with addFiles := l },
   .optional "copy_files_before_build" filesOfToml fun l t ↦ { t with copyFilesBeforeBuild := l },
   .optional "add_files_before_build" filesOfToml fun l t ↦ { t with addFilesBeforeBuild := l }]

/-- Reads a build target. -/
def Target.ofToml (v : Value) : Except ShapeError Target :=
  v.asRecord "TargetOverride" fields {}

/-- The fields of the project metadata. -/
def Project.fields : List (RecordField Project) :=
  [.optional "name" Value.asText fun s p ↦ { p with name := s },
   .optional "authors" (Value.asList Author.ofToml) fun l p ↦ { p with authors := l },
   .optional "dependencies" textsOfToml fun l p ↦ { p with dependencies := l },
   .optional "optional-dependencies" (Value.asPairs textsOfToml)
     fun l p ↦ { p with optionalDependencies := l },
   .optional "requires-python" Value.asText fun s p ↦ { p with requiresPython := some s }]

/-- Reads the project metadata. -/
def Project.ofToml (v : Value) : Except ShapeError Project :=
  v.asRecord "Project" fields {}

namespace PoetryDependency

/-- A field of a dependency table that is a text when it is there. -/
def textField (entries : List (String × Value)) (name : String) :
    Except ShapeError (Option String) :=
  match entries.lookup name with
  | none => .ok none
  | some (.text s) => .ok (some s)
  | some v => .error (.notText name v.kind)

/-- The texts among some values; all others are passed over. -/
def textsAmong (items : List Value) : List String :=
  items.filterMap fun
    | .text s => some s
    | _ => none

/-- The extras of a dependency table. -/
def extrasField (entries : List (String × Value)) : Except ShapeError (List String) :=
  match entries.lookup "extras" with
  | none => .ok []
  | some (.array items) => .ok (textsAmong items)
  | some v => .error (.notArray "extras" v.kind)

/-- Reads a dependency: a constraint, or a table with a version or a repository. -/
def ofToml : Value → Except ShapeError PoetryDependency
  | .text s => .ok (.bare s)
  | .table entries => do
    let extras ← extrasField entries
    let version ← textField entries "version"
    let git ← textField entries "git"
    let rev ← textField entries "rev"
    if version.isNone && git.isNone then .error .versionRequired
    else .ok (.detailed version git rev extras)
  | v => .error (.notPackage v.kind)

end PoetryDependency

/-- The fields of a project in the format of Poetry. -/
def PoetryProject.fields : List (RecordField PoetryProject) :=
  [.optional "name" Value.asText fun s p ↦ { p with name := s },
   .optional "authors" textsOfToml fun l p ↦ { p with authors := l },
   .optional "dependencies" (Value.asPairs PoetryDependency.ofToml)
     fun l p ↦ { p with dependencies := l }]

/-- Reads a project in the format of Poetry. -/
def PoetryProject.ofToml (v : Value) : Except ShapeError PoetryProject :=
  v.asRecord "Poetry" fields {}

namespace Manifest

/-- The field with the build targets. -/
def targetFields : List (RecordField Manifest) :=
  [.optional "target" (Value.asDict Target.ofToml) fun d m ↦ { m with targets := d }]

/-- The fields of the table for tools. -/
def toolFields : List (RecordField Manifest) :=
  [{ name := "pyimage", set := fun v m ↦ v.asRecord "PyImageTool" targetFields m },
   .optional "poetry" PoetryProject.ofToml fun p m ↦ { m with poetry := some p }]

/-- The fields of a manifest. -/
def fields : List (RecordField Manifest) :=
  [.optional "project" Project.ofToml fun p m ↦ { m with project := p },
   { name := "tool", set := fun v m ↦ v.asRecord "Tool" toolFields m }]

/-- Reads a manifest from a document. -/
def ofToml (v : Value) : Except ShapeError Manifest := v.asRecord "PyProject" fields {}

end Manifest

/-- Why a text is no manifest. -/
inductive DecodeError where
  /-- The text is not TOML. -/
  | malformed
  | shape (e : ShapeError)
deriving DecidableEq, Repr

/-- Reads a manifest from its text. -/
def Manifest.decode (text : String) : Except DecodeError Manifest :=
  match Toml.parse text with
  | none => .error .malformed
  | some v =>
    match ofToml v with
    | .ok m => .ok m
    | .error e => .error (.shape e)

end ContainerBuild
