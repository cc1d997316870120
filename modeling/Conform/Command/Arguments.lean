/-
  This file reads the arguments of a command line one after
  the other. What they may contain is told by a vocabulary:
  options, which take a value, flags, which take none, and a
  number of operands.

  Key definitions include:
    * `ArgumentError`
    * `ArgumentError.message`
    * `Vocabulary`
    * `Given`
    * `Given.take`
    * `Given.complete`
-/

namespace Conform

------------------------------------------------------------
-- Errors
------------------------------------------------------------

/- Why arguments ask for nothing that can be done. -/
inductive ArgumentError
  | unknownOption (arg : String)
  | missingValue (option : String)
  | needlessValue (option : String)
  | badValue (option value : String)
  | repeated (option : String)
  | unexpected (operand : String)
  | unknownCommand (name : String)
  | noCommand
  | noOperand (name : String)
  | together (first second : String)
deriving DecidableEq

namespace ArgumentError

/- The message for arguments that ask for nothing. -/
def message : ArgumentError → String
  | unknownOption arg => "unknown option '" ++ arg ++ "'"
  | missingValue option =>
      "option '--" ++ option ++ "' needs a value"
  | needlessValue option =>
      "option '--" ++ option ++ "' takes no value"
  | badValue option value =>
      "'" ++ value ++ "' is no value of option '--" ++ option ++
        "'"
  | repeated option =>
      "option '--" ++ option ++ "' occurs more than once"
  | unexpected operand =>
      "unexpected argument '" ++ operand ++ "'"
  | unknownCommand name => "unknown command '" ++ name ++ "'"
  | noCommand => "a command is missing"
  | noOperand name => "argument " ++ name ++ " is missing"
  | together first second =>
      "options '--" ++ first ++ "' and '--" ++ second ++
        "' exclude each other"

end ArgumentError

------------------------------------------------------------
-- Vocabularies
------------------------------------------------------------

/-
  What arguments may contain. Each option knows the values
  that it accepts, and some flags have a short form.
-/
structure Vocabulary where
  options : List (String × (String → Bool))
  flags : List String
  letters : List (Char × String)
  operands : Nat

/-
  What arguments have contained so far. After a lone pair of
  dashes everything is an operand.
-/
structure Given where
  options : List (String × String)
  flags : List String
  operands : List String
  pending : Option String
  closed : Bool

namespace Given

/- Nothing. -/
def nothing : Given :=
  ⟨[], [], [], none, false⟩

/- The value of an option. -/
def value?
    (name : String)
    (g : Given) : Option String :=
  g.options.lookup name

/- Whether a flag is set. -/
def has
    (flag : String)
    (g : Given) : Bool :=
  g.flags.contains flag

------------------------------------------------------------
-- Steps
------------------------------------------------------------

/- Sets an option, which must not be set yet. -/
def setOption
    (known : Vocabulary)
    (name value : String)
    (g : Given) : Except ArgumentError Given :=
  match known.options.lookup name with
  | none => .error (.unknownOption ("--" ++ name))
  | some accepts =>
      if !accepts value then .error (.badValue name value)
      else if (g.value? name).isSome then
        .error (.repeated name)
      else
        .ok { g with
          options := (name, value) :: g.options
          pending := none }

/- Sets a flag, which must not be set yet. -/
def setFlag
    (flag : String)
    (g : Given) : Except ArgumentError Given :=
  if g.has flag then .error (.repeated flag)
  else .ok { g with flags := flag :: g.flags }

/- Adds an operand, if there may be one more. -/
def addOperand
    (known : Vocabulary)
    (operand : String)
    (g : Given) : Except ArgumentError Given :=
  if g.operands.length < known.operands then
    .ok { g with operands := g.operands ++ [operand] }
  else .error (.unexpected operand)

/-
  Takes what follows two dashes: a flag, an option whose
  value comes next, or an option, an equals sign and its
  value.
-/
def takeLong
    (known : Vocabulary)
    (text : List Char)
    (g : Given) : Except ArgumentError Given :=
  let name := String.ofList (text.takeWhile fun c => c != '=')
  let attached := text.dropWhile fun c => c != '='
  if known.flags.contains name then
    if attached.isEmpty then g.setFlag name
    else .error (.needlessValue name)
  else
    match attached with
    | _ :: value =>
        g.setOption known name (String.ofList value)
    | [] =>
        if (known.options.lookup name).isSome then
          .ok { g with pending := some name }
        else .error (.unknownOption ("--" ++ name))

/- An argument that starts with a dash and is more than it. -/
def looksLikeOption
    (arg : String) : Bool :=
  match arg.toList with
  | '-' :: _ :: _ => true
  | _ => false

/-
  Takes the next argument. The value of an option that waits
  for one cannot look like an option itself.
-/
def take
    (known : Vocabulary)
    (g : Given)
    (arg : String) : Except ArgumentError Given :=
  if g.closed then g.addOperand known arg
  else
    match g.pending with
    | some name =>
        if looksLikeOption arg then .error (.missingValue name)
        else g.setOption known name arg
    | none =>
        match arg.toList with
        | ['-', '-'] => .ok { g with closed := true }
        | '-' :: '-' :: text => g.takeLong known text
        | '-' :: letter :: _ =>
            match known.letters.lookup letter with
            | some flag => g.setFlag flag
            | none => .error (.unknownOption arg)
        | _ => g.addOperand known arg

/- Ends the arguments. No option may wait for a value. -/
def complete
    (g : Given) : Except ArgumentError Given :=
  match g.pending with
  | some name => .error (.missingValue name)
  | none => .ok g

end Given

end Conform
