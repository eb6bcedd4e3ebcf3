import ContainerBuild.Digest.Blake3
import ContainerBuild.Text.Hex

/-!
# Build scripts

A script is a list of instructions, each in one of two stages. It is written with one
line for each instruction and a blank line where the stage changes.
-/

namespace ContainerBuild

/-- The stages of a build. -/
inductive Stage where
  /-- Installs everything. -/
  | builder
  /-- Becomes the image. -/
  | runtime
deriving DecidableEq, Repr, Inhabited

/-- The name of a stage. -/
def Stage.name : Stage → String
  | .builder => "builder"
  | .runtime => "runtime"

/-- The keywords of instructions. -/
inductive Keyword where
  | from
  | run
  | env
  | copy
  | add
  | user
  | entrypoint
  | cmd
  | label
deriving DecidableEq, Repr, Inhabited

/-- A keyword as it is written. -/
def Keyword.name : Keyword → String
  | .from => "FROM"
  | .run => "RUN"
  | .env => "ENV"
  | .copy => "COPY"
  | .add => "ADD"
  | .user => "USER"
  | .entrypoint => "ENTRYPOINT"
  | .cmd => "CMD"
  | .label => "LABEL"

/-- One instruction of a stage. -/
structure Instruction where
  stage : Stage
  keyword : Keyword
  args : String
deriving DecidableEq, Repr, Inhabited

/-- The line of an instruction. -/
def Instruction.render (i : Instruction) : String := i.keyword.name ++ " " ++ i.args

/-- Instructions in order. -/
abbrev Script := List Instruction

namespace Script

/-- The lines of a script behind an instruction of a stage. -/
def linesAfter (previous : Option Stage) : Script → List String
  | [] => []
  | i :: rest =>
    let line := i.render :: linesAfter (some i.stage) rest
    if previous.any (· ≠ i.stage) then "" :: line else line

/-- The lines of a script. -/
def lines (s : Script) : List String := linesAfter none s

/-- The text of a script. -/
def render (s : Script) : String := String.join (s.lines.map (· ++ "\n"))

/-- The instructions of one stage. -/
def ofStage (s : Script) (stage : Stage) : Script := s.filter (·.stage = stage)

/-- A name for the text of a script. -/
def digest (s : Script) : String :=
  "blake3:" ++ Text.hexBytes (Blake3.hash s.render.toUTF8.toList)

end Script

end ContainerBuild
