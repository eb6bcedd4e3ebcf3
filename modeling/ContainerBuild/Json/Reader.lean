import ContainerBuild.Json.Number
import ContainerBuild.Text.CodePoints
import ContainerBuild.Dict

/-!
# Reading JSON

A text is first read as a `Tree`, which always succeeds: where the text stops being
JSON, the tree breaks off. A reader that looks for fields walks the tree in document
order, so a wrong field counts before a fault behind it. `parse` asks for a whole
document without faults.
-/

namespace ContainerBuild.Json

/-- What a text holds, up to the place where it stops being JSON. -/
inductive Tree where
  | null
  | boolean (b : Bool)
  /-- A number; one beyond the floating-point range has no value. -/
  | number (n : Option Number)
  /-- A string; one with half of a surrogate pair has no text. -/
  | text (s : Option String)
  /-- The items of an array, and whether it is closed behind the last one. -/
  | array (items : List Tree) (closed : Bool)
  /-- The members of an object, and whether it is closed behind the last one. -/
  | object (members : List (Option String × Tree)) (closed : Bool)
  /-- No value can be read here. -/
  | broken
deriving Inhabited

/-- The blanks of JSON. -/
def isBlank (c : Char) : Bool := c = ' ' || c = '\n' || c = '\t' || c = '\r'

/-- Drops the blanks at the front. -/
def dropBlanks (s : List Char) : List Char := s.dropWhile isBlank

/-- What has been read of a string: its characters in reverse, the first half of a
surrogate pair that waits for the second, and whether all halves were paired. -/
structure StringState where
  chars : List Char
  half : Option Nat
  paired : Bool

namespace StringState

/-- Adds a character; no half may wait for it. -/
def push (st : StringState) (c : Char) : StringState :=
  ⟨c :: st.chars, none, st.paired && st.half.isNone⟩

/-- Adds a code unit of sixteen bits. -/
def pushUnit (st : StringState) (n : Nat) : StringState :=
  if 0xD800 ≤ n && n < 0xDC00 then ⟨st.chars, some n, st.paired && st.half.isNone⟩
  else if 0xDC00 ≤ n && n < 0xE000 then
    match st.half with
    | some high =>
      let code := 0x10000 + (high - 0xD800) * 0x400 + (n - 0xDC00)
      ⟨Char.ofNat code :: st.chars, none, st.paired⟩
    | none => ⟨st.chars, none, false⟩
  else st.push (Char.ofNat n)

/-- The text that was read, if all halves are paired. -/
def text? (st : StringState) : Option String :=
  if st.paired && st.half.isNone then some (String.ofList st.chars.reverse) else none

end StringState

/-- The character that a letter stands for behind a backslash. -/
def escapeValue? (c : Char) : Option Char :=
  if c = '"' || c = '\\' || c = '/' then some c
  else if c = 'n' then some '\n'
  else if c = 'r' then some '\r'
  else if c = 't' then some '\t'
  else if c = 'b' then some '\x08'
  else if c = 'f' then some '\x0c'
  else none

/-- Reads a string behind its opening quote. -/
def stringBody (st : StringState) : List Char → Option (Option String × List Char)
  | [] => none
  | '"' :: rest => some (st.text?, rest)
  | '\\' :: 'u' :: a :: b :: c :: d :: rest => do
    let n := (← Text.hexValue? a) * 0x1000 + (← Text.hexValue? b) * 0x100 +
      (← Text.hexValue? c) * 0x10 + (← Text.hexValue? d)
    stringBody (st.pushUnit n) rest
  | '\\' :: c :: rest => do
    let e ← escapeValue? c
    stringBody (st.push e) rest
  | c :: rest =>
    if c = '\\' || c.toNat < 0x20 then none else stringBody (st.push c) rest

/-- Reads a string behind its opening quote, from the beginning. -/
def string? (s : List Char) : Option (Option String × List Char) :=
  stringBody ⟨[], none, true⟩ s

mutual

/-- Reads a value and gives what follows it, unless the text breaks off inside. -/
def readValue (fuel : Nat) (s : List Char) : Tree × Option (List Char) :=
  match fuel with
  | 0 => (.broken, none)
  | fuel + 1 =>
    match dropBlanks s with
    | 'n' :: 'u' :: 'l' :: 'l' :: rest => (.null, some rest)
    | 't' :: 'r' :: 'u' :: 'e' :: rest => (.boolean true, some rest)
    | 'f' :: 'a' :: 'l' :: 's' :: 'e' :: rest => (.boolean false, some rest)
    | '"' :: rest =>
      match string? rest with
      | some (t, rest) => (.text t, some rest)
      | none => (.broken, none)
    | '[' :: rest =>
      match dropBlanks rest with
      | ']' :: rest => (.array [] true, some rest)
      | rest =>
        let (items, rest) := readItems fuel rest
        (.array items rest.isSome, rest)
    | '\x7b' :: rest =>
      match dropBlanks rest with
      | '\x7d' :: rest => (.object [] true, some rest)
      | rest =>
        let (members, rest) := readMembers fuel rest
        (.object members rest.isSome, rest)
    | s =>
      match numberText? s with
      | some (t, rest) => (.number t.value?, some rest)
      | none => (.broken, none)

/-- Reads the items of an array up to its end. -/
def readItems (fuel : Nat) (s : List Char) : List Tree × Option (List Char) :=
  match fuel with
  | 0 => ([], none)
  | fuel + 1 =>
    match readValue fuel s with
    | (item, none) => ([item], none)
    | (item, some rest) =>
      match dropBlanks rest with
      | ']' :: rest => ([item], some rest)
      | ',' :: rest =>
        let (items, rest) := readItems fuel rest
        (item :: items, rest)
      | _ => ([item], none)

/-- Reads the members of an object up to its end. -/
def readMembers (fuel : Nat) (s : List Char) : List (Option String × Tree) × Option (List Char) :=
  match fuel with
  | 0 => ([], none)
  | fuel + 1 =>
    match dropBlanks s with
    | '"' :: rest =>
      match string? rest with
      | none => ([], none)
      | some (key, rest) =>
        match dropBlanks rest with
        | ':' :: rest =>
          match readValue fuel rest with
          | (value, none) => ([(key, value)], none)
          | (value, some rest) =>
            match dropBlanks rest with
            | '\x7d' :: rest => ([(key, value)], some rest)
            | ',' :: rest =>
              let (members, rest) := readMembers fuel rest
              ((key, value) :: members, rest)
            | _ => ([(key, value)], none)
        | _ => ([(key, .broken)], none)
    | _ => ([], none)

end

/-- Reads a text as a tree, and tells whether only blanks follow it. -/
def readTree (s : List Char) : Tree × Bool :=
  let (tree, rest) := readValue (2 * s.length + 1) s
  (tree, rest.any fun r ↦ (dropBlanks r).isEmpty)

/-- The largest number of arrays and objects inside each other. -/
def nestingLimit : Nat := 127

/-- The value of a tree without faults that nests at most `depth` deep. The last of
equal names in an object counts, and its members are in ascending order. -/
def Tree.value? (depth : Nat) : Tree → Option Value
  | .null => some .null
  | .boolean b => some (.boolean b)
  | .number n => n.map .number
  | .text s => s.map .text
  | .broken => none
  | .array items closed =>
    match depth with
    | 0 => none
    | depth + 1 => if closed then (items.mapM (value? depth)).map .array else none
  | .object members closed =>
    match depth with
    | 0 => none
    | depth + 1 =>
      if closed then do
        let pairs ← members.mapM fun (key, tree) ↦ do
          let k ← key
          let v ← value? depth tree
          pure (k, v)
        some (.object (pairs.foldl (fun l (k, v) ↦ Dict.place k v l) []))
      else none

/-- Reads a whole document. -/
def parse (s : String) : Option Value :=
  match readTree s.toList with
  | (tree, true) => tree.value? nestingLimit
  | (_, false) => none

end ContainerBuild.Json
