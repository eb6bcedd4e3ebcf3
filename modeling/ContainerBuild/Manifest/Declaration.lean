import ContainerBuild.Manifest.Basic
import ContainerBuild.Version.Shorthand

/-!
# Project declarations

What a project says of itself, whichever format it is written in. The project table
counts when it names the project, and otherwise a project in the format of Poetry does.
-/

namespace ContainerBuild

/-- The declaration of a project. -/
structure Declaration where
  name : String
  authors : List Author
  dependencies : List String
  /-- The groups of optional dependencies, in document order. -/
  optionalDependencies : List (String × List String)
  /-- The constraint on the interpreter; an empty one allows every version. -/
  requiresPython : String
deriving DecidableEq, Repr, Inhabited

namespace Declaration

/-- The dependencies of a group. -/
def group? (d : Declaration) (name : String) : Option (List String) :=
  d.optionalDependencies.lookup name

/-- The declaration in the project table. -/
def ofProject (p : Project) : Declaration :=
  ⟨p.name, p.authors, p.dependencies, p.optionalDependencies, p.requiresPython.getD ""⟩

end Declaration

namespace PoetryDependency

/-- The extras of a dependency. -/
def extras : PoetryDependency → List String
  | .bare _ => []
  | .detailed _ _ _ extras => extras

/-- The requirement for a package in a repository, at a revision if one is given. -/
def repositoryRequirement (git : String) (rev : Option String) : String :=
  " @ git+" ++ (Text.dropLead? "git+" git).getD git ++
    match rev with
    | none => ""
    | some rev => "@" ++ rev

/-- The package of a requirement with the extras that are asked for. -/
def subject (name : String) (d : PoetryDependency) : String :=
  name ++ if d.extras.isEmpty then "" else "[" ++ ",".intercalate d.extras ++ "]"

/-- The requirement text for a package. -/
def requirement (name : String) (d : PoetryDependency) : String :=
  match d with
  | .detailed _ (some git) rev _ => d.subject name ++ repositoryRequirement git rev
  | d => d.subject name ++ ((d.constraint?.map Version.Shorthand.expand).getD "")

end PoetryDependency

namespace PoetryProject

/-- The constraint that the entry for the interpreter gives; empty when there is none. -/
def requiresPython (p : PoetryProject) : String :=
  ((p.dependencies.lookup "python").bind PoetryDependency.constraint?).getD ""

/-- The declaration of a project in the format of Poetry. -/
def declaration (p : PoetryProject) : Declaration where
  name := p.name
  authors := p.authors.map Author.parse
  dependencies := (p.dependencies.filter fun d ↦ d.1 ≠ "python").map fun d ↦
    d.2.requirement d.1
  optionalDependencies := []
  requiresPython := p.requiresPython

end PoetryProject

/-- The declaration of a manifest. -/
def Manifest.declaration (m : Manifest) : Declaration :=
  match m.poetry with
  | some poetry => if m.project.name = "" then poetry.declaration else .ofProject m.project
  | none => .ofProject m.project

end ContainerBuild
