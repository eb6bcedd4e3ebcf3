import ContainerBuild.Proofs.Shell.Words

/-!
# The commands of a chain

Conjunctions join commands, and each command is a list of words. A word in which nothing is
expanded is one text, whatever of it is quoted; other words have no text of their own.
-/

namespace ContainerBuild.Shell

/-- The character that a part stands for, if nothing is expanded there. -/
def Part.char? : Part → Option Char
  | .bare c => if isInert c then some c else none
  | .quoted c => some c
  | .output _ => none

/-- The text of a word in which nothing is expanded. -/
def Token.text? : Token → Option String
  | .word parts => (parts.mapM Part.char?).map String.ofList
  | .operator _ => none

/-- Whether a token joins two commands, of which the second needs the first to succeed. -/
def Token.isConjunction : Token → Bool
  | .word _ => false
  | .operator text => text = ['&', '&']

/-- The commands that conjunctions join, each with the texts of its words. -/
def commands (tokens : List Token) : List (List (Option String)) :=
  (tokens.splitOnP Token.isConjunction).map (·.map Token.text?)

variable {s : String} {tokens : List Token}

private theorem text?_map {part : Char → Part} (h : ∀ c ∈ s.toList, (part c).char? = some c) :
    (Token.word (s.toList.map part)).text? = some s := by
  have hchars : ∀ chars : List Char, (∀ c ∈ chars, (part c).char? = some c) →
      (chars.map part).mapM Part.char? = some chars := by
    intro chars hchars
    induction chars with
    | nil => rfl
    | cons c chars ih =>
      obtain ⟨hc, hrest⟩ := List.forall_mem_cons.mp hchars
      rw [List.map_cons, List.mapM_cons, hc, ih hrest]
      rfl
  rw [Token.text?, hchars _ h, Option.map_some, String.ofList_toList]

/-- A quoted word is its text. -/
@[simp] theorem text?_quoted (s : String) : (Token.quoted s).text? = some s :=
  text?_map fun _ _ ↦ rfl

/-- A word without quotes is its text when no character makes a pattern of it. -/
theorem text?_bare (h : s.toList.all isInert = true) : (Token.bare s).text? = some s := by
  apply text?_map
  intro c hc
  exact if_pos (List.all_eq_true.mp h c hc)

/-- Words without a conjunction between them are one command. -/
theorem commands_eq_singleton (h : ∀ token ∈ tokens, token.isConjunction = false) :
    commands tokens = [tokens.map Token.text?] := by
  rw [commands, List.splitOnP_eq_singleton (by simpa using h), List.map_singleton]

/-- A conjunction stands between the commands in front of it and those behind it. -/
theorem commands_append_conjunction (before behind : List Token) :
    commands (before ++ .operator ['&', '&'] :: behind) = commands before ++ commands behind := by
  rw [commands, List.splitOnP_append_cons _ _ rfl, List.map_append, commands, commands]

/-- What is read from shell words gives the texts back, each as one word in which nothing is
expanded. -/
theorem texts_read_shellWords (texts : List String) :
    (read? (Quote.shellWords texts).toList).map (·.map Token.text?) = some (texts.map some) := by
  rw [(reads_shellWords texts).read?, Option.map_some, List.map_map]
  simp [Function.comp_def]

end ContainerBuild.Shell
