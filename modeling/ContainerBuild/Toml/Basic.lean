import ContainerBuild.Text.Decimal

/-!
# TOML values

The data of a TOML document. The entries of a table are in document order, and each
key stands once.
-/

namespace ContainerBuild.Toml

/-- A TOML value. -/
inductive Value where
  | text (s : String)
  | integer (n : Int)
  | float (x : Float)
  | boolean (b : Bool)
  /-- A date, a time or both, in normal form. -/
  | datetime (s : String)
  | array (items : List Value)
  | table (entries : List (String × Value))
deriving Repr, Inhabited

/-- The name of the kind of a value. -/
def Value.kind : Value → String
  | .text _ => "string"
  | .integer _ => "integer"
  | .float _ => "float"
  | .boolean _ => "boolean"
  | .datetime _ => "datetime"
  | .array _ => "array"
  | .table _ => "table"

/-- Reads a part of a text from its front and gives what follows it. -/
abbrev Reader (α : Type) := List Char → Option (α × List Char)

end ContainerBuild.Toml
