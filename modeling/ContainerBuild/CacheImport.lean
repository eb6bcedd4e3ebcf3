import ContainerBuild.Json.Reader
import ContainerBuild.Shape
import ContainerBuild.Text.Blank
import ContainerBuild.Text.Split

/-!
# Cache imports

Where a build may take layers from. Entries come as a JSON array, or as plain registry
references between commas. The reader walks the JSON in document order, so the first wrong
shape counts.
-/

namespace ContainerBuild

/-- A source of layers: its kind and its attributes. -/
structure CacheImport where
  kind : String
  attrs : Dict String
deriving DecidableEq

/-- Why a JSON text holds no list of cache imports. -/
inductive CacheImportError where
  /-- The text is not JSON. -/
  | malformed
  | shape (e : ShapeError)
deriving DecidableEq, Repr

namespace CacheImport

open Json (Tree)

/-- The cache at a registry reference. -/
def registry (reference : String) : CacheImport :=
  ⟨"registry", .ofList [("ref", reference)]⟩

/-- What a value is in the words of a message. -/
def found : Tree → Except CacheImportError Found
  | .null => .ok .null
  | .boolean b => .ok (.boolean b)
  | .number (some (.natural n)) => .ok (.integer n)
  | .number (some (.negative n)) => .ok (.integer (-n))
  | .number (some (.float x)) => .ok (.float (Decimal.compactText x))
  | .number none => .error .malformed
  | .text (some s) => .ok (.text s)
  | .text none => .error .malformed
  | .array _ _ => .ok .sequence
  | .object _ _ => .ok .map
  | .broken => .error .malformed

/-- A mismatch with what is expected. -/
def mismatch {α : Type} (t : Tree) (expected : String) : Except CacheImportError α :=
  match found t with
  | .ok f => .error (.shape (.wrongType f expected))
  | .error e => .error e

/-- Reads a text. -/
def text (t : Tree) : Except CacheImportError String :=
  match t with
  | .text (some s) => .ok s
  | t => mismatch t "a string"

/-- Reads the members of an object with texts; the last of equal names counts. -/
def textMembers (attrs : Dict String) : List (Option String × Tree) →
    Except CacheImportError (Dict String)
  | [] => .ok attrs
  | (none, _) :: _ => .error .malformed
  | (some key, value) :: rest =>
    match text value with
    | .ok s => textMembers (attrs.insert key s) rest
    | .error e => .error e

/-- Reads an object with texts. -/
def attributes (t : Tree) : Except CacheImportError (Dict String) :=
  match t with
  | .object members closed => do
    let attrs ← textMembers .empty members
    if closed then .ok attrs else .error .malformed
  | t => mismatch t "a map"

/-- Reads the members of an entry, of which `kind` and `attrs` were read before. -/
def entryMembers (kind : Option String) (attrs : Option (Dict String)) (closed : Bool) :
    List (Option String × Tree) → Except CacheImportError CacheImport
  | [] =>
    if !closed then .error .malformed
    else
      match kind with
      | some kind => .ok ⟨kind, attrs.getD .empty⟩
      | none => .error (.shape (.missingField "Type"))
  | (none, _) :: _ => .error .malformed
  | (some key, value) :: rest =>
    if key = "Type" || key = "type" then
      if kind.isSome then .error (.shape (.duplicateField "Type"))
      else
        match text value with
        | .ok s => entryMembers (some s) attrs closed rest
        | .error e => .error e
    else if key = "Attrs" || key = "attrs" then
      if attrs.isSome then .error (.shape (.duplicateField "Attrs"))
      else
        match attributes value with
        | .ok d => entryMembers kind (some d) closed rest
        | .error e => .error e
    else entryMembers kind attrs closed rest

/-- Reads an entry that is written as an array of its fields. -/
def entryItems (closed : Bool) : List Tree → Except CacheImportError CacheImport
  | [] =>
    if closed then .error (.shape (.tooFewElements 0 (ShapeError.recordOf "CacheImport" 2)))
    else .error .malformed
  | [kind] => do
    let kind ← text kind
    if closed then .ok ⟨kind, .empty⟩ else .error .malformed
  | kind :: attrs :: rest => do
    let kind ← text kind
    let attrs ← attributes attrs
    if !rest.isEmpty then .error (.shape .tooManyElements)
    else if closed then .ok ⟨kind, attrs⟩
    else .error .malformed

/-- Reads an entry. -/
def entry (t : Tree) : Except CacheImportError CacheImport :=
  match t with
  | .object members closed => entryMembers none none closed members
  | .array items closed => entryItems closed items
  | t => mismatch t "struct CacheImport"

/-- Reads an array of entries. -/
def entries (t : Tree) : Except CacheImportError (List CacheImport) :=
  match t with
  | .array items closed => do
    let l ← items.mapM entry
    if closed then .ok l else .error .malformed
  | t => mismatch t "a sequence"

/-- Reads the entries of a JSON text, and passes over what it ignores without a closer look. -/
def readEntries (s : String) : Except CacheImportError (List CacheImport) := do
  let (tree, ended) := Json.readTree s.toList
  let l ← entries tree
  if ended then .ok l else .error .malformed

/-- Reads a JSON text. A wrong shape counts only when the whole text is JSON. -/
def ofJson (s : String) : Except CacheImportError (List CacheImport) :=
  match readEntries s with
  | .ok l => .ok l
  | .error e => if (Json.parse s).isSome then .error e else .error .malformed

/-- The registry references between commas. -/
def ofReferences (s : String) : List CacheImport :=
  ((Text.splitOn ',' s).filterMap Text.nonBlank?).map registry

/-- The entries of a JSON text and the registry references behind them, each once. A
blank text holds nothing. -/
def parse (imports references : Option String) :
    Except CacheImportError (List CacheImport) := do
  let entries ← match imports.bind Text.nonBlank? with
    | some json => ofJson json
    | none => .ok []
  return (entries ++ ofReferences (references.getD "")).eraseDups

/-- The written form for the command line of the engine. -/
def spec (c : CacheImport) : String :=
  ",".intercalate (("type=" ++ c.kind) :: c.attrs.entries.map fun (key, value) ↦
    key ++ "=" ++ value)

end CacheImport

end ContainerBuild
