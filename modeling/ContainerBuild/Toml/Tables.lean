import ContainerBuild.Toml.Basic

/-!
# Building tables

Headers and dotted keys open tables on the way to the one that they name. A table may
be defined once: by its header, by dotted keys inside one table, or inline. Entries
keep the order in which their keys first stand, except that a table whose header comes
after one of a table inside it moves to the end.
-/

namespace ContainerBuild.Toml

/-- How a table came to be. -/
inductive Origin where
  /-- By a header of its own or as an item of an array of tables. -/
  | header
  /-- On the way to the table of another header. -/
  | opened
  /-- By a dotted key. -/
  | dotted
deriving DecidableEq, Repr

/-- A table, or a part of one, while a document is read. -/
inductive Node where
  | value (v : Value)
  | table (origin : Origin) (entries : List (String × Node))
  | tables (items : List (List (String × Node)))
deriving Inhabited

/-- The entries of a table while a document is read. -/
abbrev Entries := List (String × Node)

/-- Gives the entry of a key another node, or a new entry at the end. -/
def Entries.put (key : String) (node : Node) : Entries → Entries
  | [] => [(key, node)]
  | (k, n) :: rest =>
    if k = key then (k, node) :: rest else (k, n) :: Entries.put key node rest

/-- Changes the table at a path below some entries, and opens the tables on the way that
do not exist. Dotted keys may pass only tables without a header. -/
def Entries.change (isDotted : Bool) (f : Origin → Entries → Option Entries) :
    (path : List String) → Origin → Entries → Option Entries
  | [], origin, entries => f origin entries
  | key :: path, _, entries =>
    match entries.lookup key with
    | none => do
      let origin : Origin := if isDotted then .dotted else .opened
      let sub ← change isDotted f path origin []
      some (entries.put key (.table origin sub))
    | some (.value _) => none
    | some (.table origin sub) =>
      if isDotted && origin = .header then none
      else do
        let sub ← change isDotted f path origin sub
        some (entries.put key (.table origin sub))
    | some (.tables items) => do
      let last ← items.getLast?
      let last ← change isDotted f path .header last
      some (entries.put key (.tables (items.dropLast ++ [last])))

/-- Adds a value under a dotted key. -/
def Entries.addValue (entries : Entries) (path : List String) (key : String) (v : Value) :
    Option Entries :=
  entries.change true (fun origin sub ↦
    if decide (origin = .dotted) == path.isEmpty then none
    else if (sub.lookup key).isSome then none
    else some (sub ++ [(key, .value v)])) path .header

/-- Takes the table of a header out, so that it can be filled: one that was opened on the
way to another is resumed, and any other may not exist yet. -/
def Entries.resume (entries : Entries) (path : List String) (key : String) :
    Option (Entries × Entries) := do
  let found ← parentOf path entries
  match found.lookup key with
  | none => some ([], ← entries.change false (fun _ sub ↦ some sub) path .header)
  | some (.table .opened sub) =>
    let without ← entries.change false
      (fun _ sub ↦ some (sub.filter fun (k, _) ↦ k ≠ key)) path .header
    some (sub, without)
  | some _ => none
where
  /-- The entries of the table at a path; none are there when it does not exist. -/
  parentOf : List String → Entries → Option Entries
    | [], entries => some entries
    | key :: path, entries =>
      match entries.lookup key with
      | none => some []
      | some (.value _) => none
      | some (.table _ sub) => parentOf path sub
      | some (.tables items) => items.getLast?.bind (parentOf path)

/-- Puts a filled table in its place. -/
def Entries.addTable (entries : Entries) (path : List String) (key : String) (table : Entries) :
    Option Entries :=
  entries.change false (fun _ sub ↦
    if (sub.lookup key).isSome then none
    else some (sub ++ [(key, .table .header table)])) path .header

/-- Adds a filled table to an array of tables. -/
def Entries.addItem (entries : Entries) (path : List String) (key : String) (table : Entries) :
    Option Entries :=
  entries.change false (fun _ sub ↦
    match sub.lookup key with
    | none => some (sub ++ [(key, .tables [table])])
    | some (.tables items) => some (sub.put key (.tables (items ++ [table])))
    | some _ => none) path .header

/-- Whether an array of tables may get another item: nothing else has its name. -/
def Entries.acceptsItem (entries : Entries) (path : List String) (key : String) : Bool :=
  (entries.change false (fun _ sub ↦
    match sub.lookup key with
    | none | some (.tables _) => some sub
    | some _ => none) path .header).isSome

mutual

/-- The value that was built. -/
def Node.finish : Node → Value
  | .value v => v
  | .table _ entries => .table (finishEntries entries)
  | .tables items => .array (finishItems items)

/-- The entries that were built. -/
def finishEntries : List (String × Node) → List (String × Value)
  | [] => []
  | (k, n) :: rest => (k, n.finish) :: finishEntries rest

/-- The items that were built. -/
def finishItems : List (List (String × Node)) → List Value
  | [] => []
  | entries :: rest => .table (finishEntries entries) :: finishItems rest

end

end ContainerBuild.Toml
