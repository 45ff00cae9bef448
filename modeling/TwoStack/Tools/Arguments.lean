/-!
# Command lines

Arguments are options and operands in any order.  An option has a long name after two dashes and may
have a short one, a letter, after one dash.  The value of an option is the next argument, or follows
its name after an equals sign; after a letter it may follow at once.  Letters of options without
value may stand together.  After two dashes alone only operands follow.
-/

namespace TwoStack

/-- An option of a tool. -/
structure OptionSpec where
  long : String
  short : Option Char := none
  takesValue : Bool
  deriving DecidableEq, Repr

/-- What the arguments of a tool say. -/
structure Arguments where
  operands : List String := []
  /-- The options given, by their long names, each with its value if it takes one. -/
  options : List (String × Option String) := []
  deriving DecidableEq, Repr

namespace Arguments

/-- Adds an operand. -/
def addOperand (arguments : Arguments) (operand : String) : Arguments :=
  { arguments with operands := arguments.operands ++ [operand] }

/-- Adds an option that has not been given before. -/
def addOption? (arguments : Arguments) (spec : OptionSpec) (value : Option String) :
    Option Arguments :=
  if arguments.options.any fun (name, _) => name == spec.long then none
  else some { arguments with options := arguments.options ++ [(spec.long, value)] }

/-- Whether an option is given. -/
def has (arguments : Arguments) (long : String) : Bool :=
  arguments.options.any fun (name, _) => name == long

/-- The value of an option, if it is given. -/
def value? (arguments : Arguments) (long : String) : Option String :=
  (arguments.options.lookup long).join

/-- Whether an argument can be the value of the option before it. -/
def isValue (argument : String) : Bool := argument == "-" || argument.toList.head? != some '-'

/-- Reads options by their letters.  The outcome tells which option, if any, still waits for its
value. -/
def readLetters? (specs : List OptionSpec) (arguments : Arguments) :
    List Char → Option (Arguments × Option OptionSpec)
  | [] => some (arguments, none)
  | letter :: rest =>
    match specs.find? fun spec => spec.short == some letter with
    | none => none
    | some spec =>
      if spec.takesValue then
        match rest with
        | [] => some (arguments, some spec)
        | '=' :: value => (arguments.addOption? spec (String.ofList value)).map fun a => (a, none)
        | value => (arguments.addOption? spec (String.ofList value)).map fun a => (a, none)
      else
        match arguments.addOption? spec none with
        | none => none
        | some arguments => readLetters? specs arguments rest

/-- Reads an option by its long name.  The outcome tells which option, if any, still waits for its
value. -/
def readLong? (specs : List OptionSpec) (arguments : Arguments) (text : List Char) :
    Option (Arguments × Option OptionSpec) := do
  let name := text.takeWhile (· != '=')
  let spec ← specs.find? fun spec => spec.long.toList == name
  match text.dropWhile (· != '='), spec.takesValue with
  | _ :: value, true => (arguments.addOption? spec (String.ofList value)).map fun a => (a, none)
  | _ :: _, false => none
  | [], true => return (arguments, some spec)
  | [], false => (arguments.addOption? spec none).map fun a => (a, none)

/-- Reads arguments, given the option that waits for its value; there is no outcome if they do not
fit the options. -/
def readFrom? (specs : List OptionSpec) (arguments : Arguments) :
    Option OptionSpec → List String → Option Arguments
  | none, [] => some arguments
  | some _, [] => none
  | some spec, value :: rest =>
    if isValue value then
      match arguments.addOption? spec (some value) with
      | none => none
      | some arguments => readFrom? specs arguments none rest
    else
      none
  | none, argument :: rest =>
    match argument.toList with
    | ['-', '-'] => some { arguments with operands := arguments.operands ++ rest }
    | '-' :: '-' :: text =>
      match readLong? specs arguments text with
      | none => none
      | some (arguments, waiting) => readFrom? specs arguments waiting rest
    | '-' :: letter :: letters =>
      match readLetters? specs arguments (letter :: letters) with
      | none => none
      | some (arguments, waiting) => readFrom? specs arguments waiting rest
    | _ => readFrom? specs (arguments.addOperand argument) none rest

/-- Reads the arguments of a tool. -/
def read? (specs : List OptionSpec) (arguments : List String) : Option Arguments :=
  readFrom? specs {} none arguments

end Arguments

end TwoStack
