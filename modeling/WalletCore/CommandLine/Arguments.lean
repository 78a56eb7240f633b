/-! # Arguments of the command line

The first argument names a task, and the arguments after it are options and values of the task. An
option that takes a value has it in the next argument, or in its own argument after an equals sign
or, for a one-letter option, right after the letter. An argument that starts with a hyphen is never
the value of an option, unless it is a lone hyphen. After two hyphens every argument is a value.
-/
namespace WalletCore.CommandLine

/-- A task with its arguments. -/
inductive Task where
  /-- Migrate a file of persisted state. -/
  | migrate (input : String) (output : Option String)
  /-- Tell how a method is permissioned. -/
  | method (name : String)
  /-- Check an authorization. -/
  | validateCaveat (value environment : String)
deriving DecidableEq

/-- What help is asked about. -/
inductive HelpTopic where
  /-- The program. -/
  | program
  /-- The migration of a file. -/
  | migrate
  /-- The permission of a method. -/
  | method
  /-- The check of an authorization. -/
  | validateCaveat
  /-- Help itself. -/
  | help
deriving DecidableEq

/-- What the arguments ask for. -/
inductive Invocation where
  /-- A task. -/
  | task (task : Task)
  /-- Help. -/
  | help (topic : HelpTopic)
deriving DecidableEq

/-- An option that takes a value. -/
structure ValueOption where
  /-- The long name. -/
  long : String
  /-- The letter, if it has one. -/
  letter : Option Char
deriving DecidableEq

/-- The options and values that a task takes. -/
structure Signature where
  /-- What help about the task is about. -/
  topic : HelpTopic
  /-- The options. -/
  options : List ValueOption
  /-- How many values it takes besides those of options. -/
  positionals : Nat

/-- The arguments of a task that were read. -/
structure Parsed where
  /-- The values of options, by long name. -/
  values : List (String × String) := []
  /-- The other values, in order. -/
  positionals : List String := []

/-- How the reading of the arguments of a task ends. -/
inductive Reading where
  /-- All arguments were read. -/
  | complete (parsed : Parsed)
  /-- Help was asked for before anything went wrong. -/
  | help
  /-- The arguments are wrong. -/
  | wrong

/-- An argument as it is seen before two hyphens. -/
inductive Shape where
  /-- Two hyphens. -/
  | escape
  /-- A long option, with the value after its equals sign. -/
  | long (name : String) (attached : Option String)
  /-- One-letter options. -/
  | letters (letters : List Char)
  /-- A value. -/
  | value (text : String)

/-- The shape of an argument. -/
def Shape.of (argument : String) : Shape :=
  match argument.toList with
  | ['-', '-'] => .escape
  | '-' :: '-' :: option =>
    match option.dropWhile (· ≠ '=') with
    | [] => .long (String.ofList option) none
    | _ :: attached =>
      .long (String.ofList (option.takeWhile (· ≠ '='))) (some (String.ofList attached))
  | '-' :: first :: others => .letters (first :: others)
  | _ => .value argument

namespace Parsed

/-- Take the value of an option. A value must not be empty, and an option must not repeat. -/
def takeValue? (parsed : Parsed) (option : ValueOption) (value : String) : Option Parsed :=
  if value.isEmpty ∨ (parsed.values.lookup option.long).isSome then none
  else some { parsed with values := parsed.values ++ [(option.long, value)] }

/-- Take a value that belongs to no option. -/
def takePositional? (parsed : Parsed) (signature : Signature) (value : String) : Option Parsed :=
  if parsed.positionals.length < signature.positionals then
    some { parsed with positionals := parsed.positionals ++ [value] }
  else none

end Parsed

/-- Read arguments that are all values. -/
def readPositionals (signature : Signature) (parsed : Parsed) : List String → Reading
  | [] => .complete parsed
  | argument :: arguments =>
    match parsed.takePositional? signature argument with
    | none => .wrong
    | some parsed => readPositionals signature parsed arguments

/-- The value attached to a letter, without the equals sign in front of it. -/
def attachedValue (rest : List Char) : String :=
  String.ofList (match rest with
    | '=' :: value => value
    | _ => rest)

/-- Read the arguments of a task. `waiting` is the option whose value comes next. -/
def readArguments (signature : Signature) (waiting : Option ValueOption) (parsed : Parsed) :
    List String → Reading
  | [] => if waiting.isSome then .wrong else .complete parsed
  | argument :: arguments =>
    match Shape.of argument, waiting with
    | .value text, some option =>
      match parsed.takeValue? option text with
      | none => .wrong
      | some parsed => readArguments signature none parsed arguments
    | _, some _ => .wrong
    | .value text, none =>
      match parsed.takePositional? signature text with
      | none => .wrong
      | some parsed => readArguments signature none parsed arguments
    | .escape, none => readPositionals signature parsed arguments
    | .long "help" none, none => .help
    | .long name attached, none =>
      match signature.options.find? (·.long = name), attached with
      | none, _ => .wrong
      | some option, none => readArguments signature (some option) parsed arguments
      | some option, some value =>
        match parsed.takeValue? option value with
        | none => .wrong
        | some parsed => readArguments signature none parsed arguments
    | .letters [], none => .wrong
    | .letters ('h' :: _), none => .help
    | .letters (letter :: rest), none =>
      match signature.options.find? (·.letter = some letter) with
      | none => .wrong
      | some option =>
        if rest.isEmpty then readArguments signature (some option) parsed arguments
        else
          match parsed.takeValue? option (attachedValue rest) with
          | none => .wrong
          | some parsed => readArguments signature none parsed arguments

/-- The arguments of the migration of a file. -/
def migrateSignature : Signature where
  topic := .migrate
  options := [⟨"input", some 'i'⟩, ⟨"output", some 'o'⟩]
  positionals := 0

/-- The arguments of the permission of a method. -/
def methodSignature : Signature where
  topic := .method
  options := []
  positionals := 1

/-- The arguments of the check of an authorization. -/
def validateCaveatSignature : Signature where
  topic := .validateCaveat
  options := [⟨"value", none⟩, ⟨"env", none⟩]
  positionals := 0

/-- The task of arguments that were read, if none is missing. -/
def taskOf? (topic : HelpTopic) (parsed : Parsed) : Option Task :=
  match topic with
  | .migrate => (parsed.values.lookup "input").map (.migrate · (parsed.values.lookup "output"))
  | .method => parsed.positionals.head?.map .method
  | .validateCaveat => do
    .some (.validateCaveat (← parsed.values.lookup "value") (← parsed.values.lookup "env"))
  | .program | .help => none

/-- What the arguments of a task ask for. -/
def invocationOf? (signature : Signature) (arguments : List String) : Option Invocation :=
  match readArguments signature none {} arguments with
  | .complete parsed => (taskOf? signature.topic parsed).map .task
  | .help => some (.help signature.topic)
  | .wrong => none

/-- The topic that a name stands for. -/
def topicOfName? (name : String) : Option HelpTopic :=
  if name = "migrate" then some .migrate
  else if name = "method" then some .method
  else if name = "validate-caveat" then some .validateCaveat
  else if name = "help" then some .help
  else none

/-- What the arguments of a program ask for; nothing if they are wrong. -/
def Invocation.ofArguments? : List String → Option Invocation
  | [] => none
  | first :: arguments =>
    match Shape.of first with
    | .long "help" none => some (.help .program)
    | .letters ('h' :: _) => some (.help .program)
    | .value name =>
      match topicOfName? name with
      | some .migrate => invocationOf? migrateSignature arguments
      | some .method => invocationOf? methodSignature arguments
      | some .validateCaveat => invocationOf? validateCaveatSignature arguments
      | some .help =>
        match arguments with
        | [] => some (.help .program)
        | [name] => (topicOfName? name).map .help
        | _ => none
      | _ => none
    | _ => none

end WalletCore.CommandLine
