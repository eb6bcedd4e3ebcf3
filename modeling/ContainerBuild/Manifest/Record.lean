import ContainerBuild.Decimal.Shortest
import ContainerBuild.Dict
import ContainerBuild.Shape
import ContainerBuild.Toml.Basic

/-!
# Reading records from TOML values

A record is a table of named fields. It may also be an array of its fields in their
order, of which those that may be missing can be left out at the end. A date counts as
a table with one entry, which holds its text.
-/

namespace ContainerBuild.Toml

/-- What a value is in the words of a message. -/
def Value.found : Value → Found
  | .text s => .text s
  | .integer n => .integer n
  | .float x => .float (Decimal.plainText x)
  | .boolean b => .boolean b
  | .datetime _ => .map
  | .array _ => .sequence
  | .table _ => .map

/-- The key under which a date counts as a table. -/
def datetimeKey : String := "$__toml_private_datetime"

/-- The entries of a value that counts as a table. -/
def Value.entries? : Value → Option (List (String × Value))
  | .table entries => some entries
  | .datetime s => some [(datetimeKey, .text s)]
  | _ => none

/-- A mismatch with what is expected. -/
def Value.mismatch {α : Type} (v : Value) (expected : String) : Except ShapeError α :=
  .error (.wrongType v.found expected)

/-- Reads a text. -/
def Value.asText (v : Value) : Except ShapeError String :=
  match v with
  | .text s => .ok s
  | v => v.mismatch "a string"

/-- Reads a boolean. -/
def Value.asBoolean (v : Value) : Except ShapeError Bool :=
  match v with
  | .boolean b => .ok b
  | v => v.mismatch "a boolean"

/-- Reads every item of an array. -/
def Value.asList {α : Type} (item : Value → Except ShapeError α) (v : Value) :
    Except ShapeError (List α) :=
  match v with
  | .array items => items.mapM item
  | v => v.mismatch "a sequence"

/-- Reads every entry of a table, in document order. -/
def Value.asPairs {α : Type} (item : Value → Except ShapeError α) (v : Value) :
    Except ShapeError (List (String × α)) :=
  match v.entries? with
  | some entries => entries.mapM fun (key, value) ↦ (item value).map (key, ·)
  | none => v.mismatch "a map"

/-- Reads every entry of a table into a dictionary. -/
def Value.asDict {α : Type} (item : Value → Except ShapeError α) (v : Value) :
    Except ShapeError (Dict α) :=
  (v.asPairs item).map Dict.ofList

/-- A field of a record: its name, another name for it, whether it must be there, and how
its value goes into the record. -/
structure RecordField (σ : Type) where
  name : String
  alias? : Option String := none
  required : Bool := false
  set : Value → σ → Except ShapeError σ

namespace RecordField

variable {σ : Type}

/-- A field that may be missing. -/
def optional {α : Type} (name : String) (read : Value → Except ShapeError α)
    (put : α → σ → σ) : RecordField σ where
  name
  set v record := (read v).map fun a ↦ put a record

/-- A field that must be there. -/
def mandatory {α : Type} (name : String) (read : Value → Except ShapeError α)
    (put : α → σ → σ) : RecordField σ :=
  { optional name read put with required := true }

/-- Whether a key names the field. -/
def matches? (f : RecordField σ) (key : String) : Bool := f.name = key || f.alias? = some key

/-- Reads the fields of a table in document order; `seen` holds those that were read. -/
def ofEntries (fields : List (RecordField σ)) (seen : List String) (record : σ) :
    List (String × Value) → Except ShapeError σ
  | [] =>
    match fields.find? fun f ↦ f.required && !seen.contains f.name with
    | some f => .error (.missingField f.name)
    | none => .ok record
  | (key, value) :: rest =>
    match fields.find? (·.matches? key) with
    | none => ofEntries fields seen record rest
    | some f =>
      if seen.contains f.name then .error (.duplicateField f.name)
      else
        match f.set value record with
        | .error e => .error e
        | .ok record => ofEntries fields (f.name :: seen) record rest

/-- Reads the fields in their order from the items of an array; `expected` names the
whole record and `count` counts the items that were read. -/
def ofItems (expected : String) (count : Nat) (record : σ) :
    List (RecordField σ) → List Value → Except ShapeError σ
  | [], _ => .ok record
  | f :: fields, [] =>
    if f.required then .error (.tooFewElements count expected)
    else ofItems expected (count + 1) record fields []
  | f :: fields, value :: rest =>
    match f.set value record with
    | .error e => .error e
    | .ok record => ofItems expected (count + 1) record fields rest

end RecordField

/-- Reads a record from its table or from the array of its fields. -/
def Value.asRecord {σ : Type} (name : String) (fields : List (RecordField σ)) (start : σ)
    (v : Value) :
    Except ShapeError σ :=
  match v with
  | .array items =>
    RecordField.ofItems (ShapeError.recordOf name fields.length) 0 start fields items
  | v =>
    match v.entries? with
    | some entries => RecordField.ofEntries fields [] start entries
    | none => v.mismatch ("struct " ++ name)

end ContainerBuild.Toml
