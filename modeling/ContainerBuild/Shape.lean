import ContainerBuild.Text.Decimal
import ContainerBuild.Text.Quoted

/-!
# Shapes of documents

What can be wrong with a well-formed document that should hold certain fields. The
first mismatch in document order is the one that counts.
-/

namespace ContainerBuild

/-- What stands in a document where something else is expected. -/
inductive Found where
  | null
  | boolean (value : Bool)
  | integer (value : Int)
  /-- A number with a point or an exponent, as messages write it. -/
  | float (text : String)
  | text (value : String)
  | sequence
  | map
deriving DecidableEq, Repr

/-- An integer in decimal. -/
def Found.signed (n : Int) : String :=
  (if n < 0 then "-" else "") ++ Text.decimal n.natAbs

/-- How a message names what was found. -/
def Found.name : Found → String
  | .null => "null"
  | .boolean value => "boolean \x60" ++ (if value then "true" else "false") ++ "\x60"
  | .integer value => "integer \x60" ++ signed value ++ "\x60"
  | .float digits => "floating point \x60" ++ digits ++ "\x60"
  | .text value => "string " ++ Text.quoted value
  | .sequence => "sequence"
  | .map => "map"

/-- A mismatch between a document and the shape that it should have. -/
inductive ShapeError where
  | wrongType (found : Found) (expected : String)
  | missingField (name : String)
  | duplicateField (name : String)
  /-- A sequence that ends before the fields of a record do. -/
  | tooFewElements (count : Nat) (expected : String)
  /-- A sequence that goes on when all fields of a record are read. -/
  | tooManyElements
  /-- A package without a version and without a repository. -/
  | versionRequired
  /-- A field of a package that is no text. -/
  | notText (field found : String)
  /-- The extras of a package that are no array. -/
  | notArray (field found : String)
  /-- A package that is neither a text nor a table. -/
  | notPackage (found : String)
deriving DecidableEq, Repr

/-- The wording of a mismatch. -/
def ShapeError.message : ShapeError → String
  | .wrongType found expected => "invalid type: " ++ found.name ++ ", expected " ++ expected
  | .missingField name => "missing field \x60" ++ name ++ "\x60"
  | .duplicateField name => "duplicate field \x60" ++ name ++ "\x60"
  | .tooFewElements count expected =>
    "invalid length " ++ Text.decimal count ++ ", expected " ++ expected
  | .tooManyElements => "trailing characters"
  | .versionRequired => "version field is required"
  | .notText field found => "\x60" ++ field ++ "\x60 must be a string, got " ++ found
  | .notArray field found => "\x60" ++ field ++ "\x60 must be an array, got " ++ found
  | .notPackage found => "expected string or table, got " ++ found

/-- How a record with a number of fields is named where it is expected in full. -/
def ShapeError.recordOf (name : String) (fields : Nat) : String :=
  "struct " ++ name ++ " with " ++ Text.decimal fields ++
    (if fields = 1 then " element" else " elements")

end ContainerBuild
