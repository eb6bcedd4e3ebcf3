import ContainerBuild.Toml.Scalar
import ContainerBuild.Toml.Tables
import ContainerBuild.Toml.Text

/-!
# Reading TOML documents

A document is a sequence of lines: headers and entries. `parse` gives the entries of
the whole document, or nothing when the text is not TOML.
-/

namespace ContainerBuild.Toml

mutual

/-- Reads a value; `depth` bounds the arrays and inline tables inside each other, and
`fuel` the length of what is read. -/
def readValue (fuel depth : Nat) (s : List Char) : Option (Value × List Char) :=
  match fuel with
  | 0 => none
  | fuel + 1 =>
    match s with
    | [] => none
    | c :: rest =>
      if c = '"' || c = '\'' then
        (string? s).map fun (t, rest) ↦ (.text t, rest)
      else if c = '[' then
        match depth with
        | 0 => none
        | depth + 1 =>
          (readItems fuel depth (dropFiller false rest)).map fun (items, rest) ↦
            (.array items, rest)
      else if c = '\x7b' then
        match depth with
        | 0 => none
        | depth + 1 =>
          match dropBlanks rest with
          | '\x7d' :: rest => some (.table [], rest)
          | rest =>
            (readMembers fuel depth [] rest).map fun (entries, rest) ↦
              (.table (finishEntries entries), rest)
      else if c = 't' || c = 'f' then boolean? s
      else numeric? s

/-- Reads the items of an array up to its end. -/
def readItems (fuel depth : Nat) (s : List Char) : Option (List Value × List Char) :=
  match fuel with
  | 0 => none
  | fuel + 1 =>
    match s with
    | ']' :: rest => some ([], rest)
    | s => do
      let (item, rest) ← readValue fuel depth s
      match dropFiller false rest with
      | ']' :: rest => some ([item], rest)
      | ',' :: rest =>
        let (items, rest) ← readItems fuel depth (dropFiller false rest)
        some (item :: items, rest)
      | _ => none

/-- Reads the entries of an inline table up to its end. -/
def readMembers (fuel depth : Nat) (entries : Entries) (s : List Char) :
    Option (Entries × List Char) :=
  match fuel with
  | 0 => none
  | fuel + 1 => do
    let ((path, key), rest) ← key? s
    match rest with
    | '=' :: rest =>
      let (v, rest) ← readValue fuel depth (dropBlanks rest)
      let entries ← entries.addValue path key v
      match dropBlanks rest with
      | '\x7d' :: rest => some (entries, rest)
      | ',' :: rest => readMembers fuel depth entries rest
      | _ => none
    | _ => none

end

/-- What has been read of a document: the finished tables, and the one being filled with
the place where it goes. -/
structure Draft where
  root : Entries
  current : Entries
  /-- The path and the key of the current table, and whether it is an item of an array;
  at first the current table is the document itself. -/
  place : Option (List String × String × Bool)

namespace Draft

/-- Puts the current table in its place. -/
def close (d : Draft) : Option Entries :=
  match d.place with
  | none => some d.current
  | some (path, key, false) => d.root.addTable path key d.current
  | some (path, key, true) => d.root.addItem path key d.current

/-- Goes on with the table of a header. -/
def openTable (d : Draft) (path : List String) (key : String) : Option Draft := do
  let root ← d.close
  let (current, root) ← root.resume path key
  some ⟨root, current, some (path, key, false)⟩

/-- Goes on with a new item of an array of tables. -/
def openItem (d : Draft) (path : List String) (key : String) : Option Draft := do
  let root ← d.close
  if root.acceptsItem path key then some ⟨root, [], some (path, key, true)⟩ else none

end Draft

/-- Reads one line that is not blank: a header or an entry. -/
def readLine (d : Draft) (s : List Char) : Option (Draft × List Char) :=
  match s with
  | '[' :: '[' :: rest => do
    let ((path, key), rest) ← key? rest
    match rest with
    | ']' :: ']' :: rest => some (← d.openItem path key, ← lineEnd? rest)
    | _ => none
  | '[' :: rest => do
    let ((path, key), rest) ← key? rest
    match rest with
    | ']' :: rest => some (← d.openTable path key, ← lineEnd? rest)
    | _ => none
  | s => do
    let ((path, key), rest) ← key? s
    match rest with
    | '=' :: rest =>
      let (v, rest) ← readValue (2 * rest.length + 2) depthLimit (dropBlanks rest)
      let current ← d.current.addValue path key v
      some ({ d with current := current }, ← lineEnd? rest)
    | _ => none

/-- Reads lines up to the end of a text; `fuel` bounds their number. -/
def readLines (fuel : Nat) (d : Draft) (s : List Char) : Option Draft :=
  match fuel with
  | 0 => none
  | fuel + 1 =>
    match dropFiller false s with
    | [] => some d
    | rest => do
      let (d, rest) ← readLine d rest
      readLines fuel d rest

/-- Drops a byte order mark at the front. -/
def dropMark : List Char → List Char
  | '\ufeff' :: rest => rest
  | s => s

/-- Reads a document. -/
def parse (text : String) : Option Value := do
  let s := dropMark text.toList
  let d ← readLines (s.length + 1) ⟨[], [], none⟩ s
  let entries ← d.close
  some (.table (finishEntries entries))

end ContainerBuild.Toml
