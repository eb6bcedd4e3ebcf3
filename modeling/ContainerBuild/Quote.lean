/-!
# Quoting

A shell word goes between single quotes, where only the single quote itself needs
care. The value of an environment entry or a label goes between double quotes, where
a backslash before a dollar stays as it is.
-/

namespace ContainerBuild.Quote

/-- The characters of a shell word between its single quotes: a single quote closes
them, stands escaped, and opens them again. -/
def shellChars : List Char → List Char
  | [] => []
  | c :: rest => if c = '\'' then '\'' :: '\\' :: '\'' :: '\'' :: shellChars rest
    else c :: shellChars rest

/-- One shell word that stands for the given text. -/
def shellWord (s : String) : String :=
  String.ofList ('\'' :: shellChars s.toList ++ ['\''])

/-- Shell words for the given texts, between spaces. -/
def shellWords (texts : List String) : String := " ".intercalate (texts.map shellWord)

/-- The characters of a value between its double quotes: quotes and backslashes are
escaped, but for a backslash before a dollar. -/
def valueChars : List Char → List Char
  | [] => []
  | '"' :: rest => '\\' :: '"' :: valueChars rest
  | '\\' :: '$' :: rest => '\\' :: '$' :: valueChars rest
  | '\\' :: rest => '\\' :: '\\' :: valueChars rest
  | c :: rest => c :: valueChars rest

/-- A value between double quotes. -/
def value (s : String) : String :=
  String.ofList ('"' :: valueChars s.toList ++ ['"'])

/-- The characters of a word between double quotes of which nothing is expanded. -/
def literalChars : List Char → List Char
  | [] => []
  | c :: rest =>
    if c = '$' || c = '\x60' || c = '\\' || c = '"' then '\\' :: c :: literalChars rest
    else c :: literalChars rest

/-- A text for use between the double quotes of a shell word, where nothing of it is
expanded. -/
def literal (s : String) : String := String.ofList (literalChars s.toList)

end ContainerBuild.Quote
