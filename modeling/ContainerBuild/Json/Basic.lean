import ContainerBuild.Decimal.Shortest
import ContainerBuild.Text.Decimal

/-!
# JSON values

Values and their two written forms: without blanks, and over several lines.
-/

namespace ContainerBuild.Json

/-- A number: integers of up to 64 bits stay exact, all others are floating-point. -/
inductive Number where
  | natural (n : Nat)
  /-- The negative integer `-n`. -/
  | negative (n : Nat)
  | float (x : Float)
deriving Repr

/-- A JSON value. The members of an object are in the order in which they are written. -/
inductive Value where
  | null
  | boolean (b : Bool)
  | number (n : Number)
  | text (s : String)
  | array (items : List Value)
  | object (members : List (String × Value))
deriving Repr, Inhabited

/-- A number as it is written. -/
def Number.render : Number → String
  | .natural n => Text.decimal n
  | .negative n => "-" ++ Text.decimal n
  | .float x => Decimal.compactText x

/-- A digit of a four-digit escape. -/
def hexDigit (n : Nat) : Char := (Nat.toDigits 16 n).headD '0'

/-- A character inside a JSON string: quotes, backslashes and control characters are
escaped. -/
def escapeChar (c : Char) : List Char :=
  if c = '"' then ['\\', '"']
  else if c = '\\' then ['\\', '\\']
  else if c = '\n' then ['\\', 'n']
  else if c = '\r' then ['\\', 'r']
  else if c = '\t' then ['\\', 't']
  else if c.toNat = 8 then ['\\', 'b']
  else if c.toNat = 12 then ['\\', 'f']
  else if c.toNat < 0x20 then
    ['\\', 'u', '0', '0', hexDigit (c.toNat / 16), hexDigit (c.toNat % 16)]
  else [c]

/-- A text as a JSON string. -/
def quote (s : String) : String :=
  String.ofList ('"' :: s.toList.flatMap escapeChar ++ ['"'])

/-- A list of texts as a JSON array without blanks. -/
def quoteAll (texts : List String) : String :=
  "[" ++ ",".intercalate (texts.map quote) ++ "]"

mutual

/-- A value without blanks. -/
def Value.compact : Value → String
  | .null => "null"
  | .boolean b => if b then "true" else "false"
  | .number n => n.render
  | .text s => quote s
  | .array items => "[" ++ ",".intercalate (compactItems items) ++ "]"
  | .object members => "\x7b" ++ ",".intercalate (compactMembers members) ++ "\x7d"

/-- The items of an array without blanks. -/
def compactItems : List Value → List String
  | [] => []
  | v :: rest => v.compact :: compactItems rest

/-- The members of an object without blanks. -/
def compactMembers : List (String × Value) → List String
  | [] => []
  | (k, v) :: rest => (quote k ++ ":" ++ v.compact) :: compactMembers rest

end

/-- What separates two lines at a level. -/
def breakLine (level : Nat) : String := "\n" ++ String.ofList (List.replicate (2 * level) ' ')

/-- Parts between brackets, one to a line; nothing stands between the brackets when
there are no parts. -/
def block (level : Nat) (opening closing : String) (parts : List String) : String :=
  if parts.isEmpty then opening ++ closing
  else
    opening ++ breakLine (level + 1) ++ ("," ++ breakLine (level + 1)).intercalate parts ++
      breakLine level ++ closing

mutual

/-- A value over several lines, with two blanks for each level. -/
def Value.prettyAt (level : Nat) : Value → String
  | .null => "null"
  | .boolean b => if b then "true" else "false"
  | .number n => n.render
  | .text s => quote s
  | .array items => block level "[" "]" (prettyItems (level + 1) items)
  | .object members => block level "\x7b" "\x7d" (prettyMembers (level + 1) members)

/-- The items of an array at a level. -/
def prettyItems (level : Nat) : List Value → List String
  | [] => []
  | v :: rest => v.prettyAt level :: prettyItems level rest

/-- The members of an object at a level. -/
def prettyMembers (level : Nat) : List (String × Value) → List String
  | [] => []
  | (k, v) :: rest => (quote k ++ ": " ++ v.prettyAt level) :: prettyMembers level rest

end

/-- A value over several lines. -/
def Value.pretty (v : Value) : String := v.prettyAt 0

/-- The member of an object with a given name. -/
def Value.get? (v : Value) (name : String) : Option Value :=
  match v with
  | .object members => members.lookup name
  | _ => none

/-- The text of a value that is one. -/
def Value.text? : Value → Option String
  | .text s => some s
  | _ => none

end ContainerBuild.Json
