import ContainerBuild.Dict
import ContainerBuild.Text.Split

/-!
# Arguments of the command line

Options are read from left to right, and the first fault decides. A long option takes its
value from behind an equals sign or from the next argument; a short one also from the
characters right behind it. An argument that opens with a hyphen is no value unless it is
the hyphen alone.
-/

namespace ContainerBuild.Cli

/-- What an option does, and how often it may stand. -/
inductive OptionKind where
  /-- Asks for help. -/
  | help
  /-- Asks for the version of the program. -/
  | version
  /-- Takes no value and stands at most once. -/
  | flag
  /-- Takes a value and stands at most once. -/
  | single
  /-- Takes a value and may stand any number of times. -/
  | repeated
deriving DecidableEq, Repr

/-- Which texts an option takes as its value. -/
inductive ValueForm where
  | anyText
  /-- A path, which is not empty. -/
  | path
  /-- The words `true` and `false`. -/
  | boolean
  /-- A key and a value around an equals sign. -/
  | pair
deriving DecidableEq, Repr

/-- An option of a command. -/
structure OptionSpec where
  long : String
  short : Option Char
  kind : OptionKind
  form : ValueForm := .anyText
deriving DecidableEq, Repr

/-- What is wrong with arguments. -/
inductive UsageError where
  | unknownOption (text : String)
  | missingValue (option : String)
  | unexpectedValue (option : String)
  | invalidValue (option value : String)
  | repeatedOption (option : String)
  | unexpectedArgument (text : String)
  | unknownCommand (text : String)
  | missingCommand
deriving DecidableEq, Repr

/-- The wording of a usage error. -/
def UsageError.message : UsageError → String
  | .unknownOption text => "unexpected argument '" ++ text ++ "' found"
  | .missingValue option => "a value is required for '--" ++ option ++ "' but none was supplied"
  | .unexpectedValue option => "unexpected value for '--" ++ option ++ "' found"
  | .invalidValue option value => "invalid value '" ++ value ++ "' for '--" ++ option ++ "'"
  | .repeatedOption option =>
    "the argument '--" ++ option ++ "' cannot be used multiple times"
  | .unexpectedArgument text => "unexpected argument '" ++ text ++ "' found"
  | .unknownCommand text => "unrecognized subcommand '" ++ text ++ "'"
  | .missingCommand => "a subcommand is required but none was supplied"

/-- Why reading stops before the last argument. -/
inductive Stop where
  | help
  | version
  | usage (e : UsageError)
deriving DecidableEq, Repr

/-- Options with their values, in the order of the arguments; the value of a flag is
empty. -/
abbrev Given := List (String × String)

/-- The key and the value of a pair; the key is not empty. -/
def keyValue? (s : String) : Option (String × String) :=
  (Text.splitOnce '=' s).filter fun p ↦ p.1 ≠ ""

/-- The truth value that a word stands for. -/
def boolean? (s : String) : Option Bool :=
  if s = "true" then some true else if s = "false" then some false else none

/-- Whether a text is of a form. -/
def ValueForm.accepts (form : ValueForm) (s : String) : Bool :=
  match form with
  | .anyText => true
  | .path => s ≠ ""
  | .boolean => (boolean? s).isSome
  | .pair => (keyValue? s).isSome

/-- Adds an option with its value. -/
def add (o : OptionSpec) (value : String) (given : Given) : Except Stop Given :=
  if !o.form.accepts value then .error (.usage (.invalidValue o.long value))
  else if o.kind ≠ .repeated && (given.lookup o.long).isSome then
    .error (.usage (.repeatedOption o.long))
  else .ok (given ++ [(o.long, value)])

/-- Adds an option that takes no value, or stops at it. -/
def addFlag (o : OptionSpec) (given : Given) : Except Stop Given :=
  match o.kind with
  | .help => .error .help
  | .version => .error .version
  | _ => add { o with form := .anyText } "" given

/-- Whether an option takes a value. -/
def OptionSpec.takesValue (o : OptionSpec) : Bool := o.kind ∈ [.single, .repeated]

/-- Whether an argument is read as an option. -/
def opensOption (arg : String) : Bool :=
  match arg.toList with
  | '-' :: _ :: _ => true
  | _ => false

/-- Options read so far, and the one that waits for its value. -/
abbrev Progress := Given × Option OptionSpec

/-- Reads a long option behind its hyphens. -/
def readLong (specs : List OptionSpec) (given : Given) (text : List Char) :
    Except Stop Progress :=
  let (name, value?) := match Text.cutAt '=' text with
    | some (name, value) => (String.ofList name, some (String.ofList value))
    | none => (String.ofList text, none)
  match specs.find? (·.long = name), value? with
  | none, _ => .error (.usage (.unknownOption ("--" ++ name)))
  | some o, some value =>
    if o.takesValue then (add o value given).map (·, none)
    else .error (.usage (.unexpectedValue o.long))
  | some o, none => if o.takesValue then .ok (given, some o) else (addFlag o given).map (·, none)

/-- What a short option has right behind it as its value: an equals sign does not belong
to it. -/
def attached : List Char → List Char
  | '=' :: value => value
  | value => value

/-- Reads short options behind their hyphen. -/
def readShorts (specs : List OptionSpec) (given : Given) : List Char → Except Stop Progress
  | [] => .ok (given, none)
  | c :: rest =>
    match specs.find? (·.short = some c) with
    | none => .error (.usage (.unknownOption (String.ofList ['-', c])))
    | some o =>
      if o.takesValue then
        if rest.isEmpty then .ok (given, some o)
        else (add o (String.ofList (attached rest)) given).map (·, none)
      else
        match addFlag o given with
        | .error stop => .error stop
        | .ok given => readShorts specs given rest

/-- Reads an argument that opens with a hyphen. -/
def readOption (specs : List OptionSpec) (given : Given) (arg : String) : Except Stop Progress :=
  match arg.toList with
  | '-' :: '-' :: text => readLong specs given text
  | text => readShorts specs given (text.drop 1)

/-- Reads options up to the first argument that is none; gives what it read and the
arguments from there on. Nothing may stand behind two hyphens alone. -/
def readOptions (specs : List OptionSpec) (given : Given) (waiting : Option OptionSpec) :
    List String → Except Stop (Given × List String)
  | [] =>
    match waiting with
    | none => .ok (given, [])
    | some o => .error (.usage (.missingValue o.long))
  | arg :: rest =>
    match waiting with
    | some o =>
      if opensOption arg then .error (.usage (.missingValue o.long))
      else
        match add o arg given with
        | .error stop => .error stop
        | .ok given => readOptions specs given none rest
    | none =>
      if arg = "--" then
        match rest with
        | [] => .ok (given, [])
        | next :: _ => .error (.usage (.unexpectedArgument next))
      else if opensOption arg then
        match readOption specs given arg with
        | .error stop => .error stop
        | .ok (given, waiting) => readOptions specs given waiting rest
      else .ok (given, arg :: rest)

end ContainerBuild.Cli
