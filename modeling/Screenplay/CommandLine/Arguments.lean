/-!
# Arguments

A command line consists of options, a command and the operands of the command:

    [--config FILE] [--gas FILE] [--runtime FILE] [--verbose] COMMAND [OPERAND]...

An option may be given once.  Its value follows it, either as the next argument or,
after an equals sign, in the same one; an option of one letter may be joined with
flags before it and with its value after it.  A value that is the next argument may
not look like an option.  After the command only flags and operands may follow; an
operand that looks like an option is given after `--`.

Where no option names a file, a variable of the environment may.
-/

namespace Screenplay.CommandLine

/-- What is asked for. -/
inductive Command where
  /-- Report what the configuration defines. -/
  | validate
  /-- List the workflows. -/
  | workflows
  /-- Write one workflow. -/
  | show (workflow : String)
  /-- Write the value of one name. -/
  | get (category name : String)
  deriving DecidableEq, Repr

/-- A command without its operands. -/
inductive CommandName where
  | validate
  | workflows
  | show
  | get
  deriving DecidableEq, Repr

namespace CommandName

/-- The word for a command. -/
def word : CommandName → String
  | .validate => "validate"
  | .workflows => "workflows"
  | .show => "show"
  | .get => "get"

/-- All commands. -/
def all : List CommandName := [.validate, .workflows, .show, .get]

/-- The command with a word. -/
def ofWord? (word : String) : Option CommandName :=
  all.find? (·.word == word)

/-- How many operands a command takes. -/
def arity : CommandName → Nat
  | .validate => 0
  | .workflows => 0
  | .show => 1
  | .get => 2

end CommandName

/-- The word that asks for help. -/
def helpWord : String := "help"

/-- An option with a value, which is the path of a file. -/
inductive FileOption where
  | config
  | gas
  | runtime
  deriving DecidableEq, Repr

namespace FileOption

/-- The name of an option. -/
def name : FileOption → String
  | .config => "config"
  | .gas => "gas"
  | .runtime => "runtime"

/-- The letter of an option, if it has one. -/
def letter? : FileOption → Option Char
  | .config => some 'c'
  | .gas => none
  | .runtime => some 'r'

/-- The variable of the environment that may stand for an option. -/
def environmentName : FileOption → String
  | .config => "UIFLOW_CONFIG"
  | .gas => "UIFLOW_GAS_CONFIG"
  | .runtime => "UIFLOW_RUNTIME_CONFIG"

/-- All options. -/
def all : List FileOption := [.config, .gas, .runtime]

end FileOption

/-- An option or flag, once it is recognized. -/
inductive Switch where
  | file (option : FileOption)
  | verbose
  | help
  deriving DecidableEq, Repr

namespace Switch

/-- The option or flag with a name. -/
def ofName? (name : String) : Option Switch :=
  if name = "verbose" then some .verbose
  else if name = "help" then some .help
  else (FileOption.all.find? (·.name == name)).map .file

/-- The option or flag with a letter. -/
def ofLetter? (letter : Char) : Option Switch :=
  if letter = 'v' then some .verbose
  else if letter = 'h' then some .help
  else (FileOption.all.find? (·.letter? == some letter)).map .file

end Switch

/-- What is wrong with a command line. -/
inductive UsageError where
  | missingCommand
  | unknownCommand (word : String)
  | unexpected (argument : String)
  | repeated (name : String)
  | valueRequired (name : String)
  | operandsRequired (command : CommandName)
  deriving DecidableEq, Repr

/-- The wording of a usage error. -/
def UsageError.message : UsageError → String
  | .missingCommand => "a command is required"
  | .unknownCommand word => "there is no command " ++ word
  | .unexpected argument => "unexpected argument " ++ argument
  | .repeated name => "--" ++ name ++ " is given more than once"
  | .valueRequired name => "--" ++ name ++ " requires the path of a file"
  | .operandsRequired command =>
      command.word ++ " requires " ++ toString command.arity ++ " operands"

/-- The options that are given. -/
structure Options where
  config : Option String := none
  gas : Option String := none
  runtime : Option String := none
  verbose : Bool := false
  deriving DecidableEq, Repr

namespace Options

/-- The value of an option. -/
def get (options : Options) : FileOption → Option String
  | .config => options.config
  | .gas => options.gas
  | .runtime => options.runtime

/-- Give an option a value, which may not be empty. -/
def set (options : Options) (option : FileOption) (value : String) :
    Except UsageError Options :=
  if value.isEmpty then .error (.valueRequired option.name)
  else if (options.get option).isSome then .error (.repeated option.name)
  else
    match option with
    | .config => .ok { options with config := some value }
    | .gas => .ok { options with gas := some value }
    | .runtime => .ok { options with runtime := some value }

/-- Set the flag. -/
def setVerbose (options : Options) : Except UsageError Options :=
  if options.verbose then .error (.repeated "verbose")
  else .ok { options with verbose := true }

end Options

/-- What an argument looks like. -/
inductive Shape where
  /-- Two hyphens and a name, with a value if there is an equals sign. -/
  | long (name : String) (value : Option String)
  /-- A hyphen and some letters. -/
  | letters (letters : List Char)
  /-- Two hyphens. -/
  | separator
  /-- Anything else, such as a single hyphen. -/
  | word
  deriving DecidableEq, Repr

/-- What an argument looks like. -/
def shapeOf (argument : String) : Shape :=
  match argument.toList with
  | ['-', '-'] => .separator
  | '-' :: '-' :: rest =>
      let name := String.ofList (rest.takeWhile (· != '='))
      match rest.dropWhile (· != '=') with
      | [] => .long name none
      | _ :: value => .long name (some (String.ofList value))
  | '-' :: letter :: rest => .letters (letter :: rest)
  | _ => .word

/-- What is known after some arguments before the command. -/
inductive Progress where
  | options (options : Options)
  /-- The next argument is the value of an option. -/
  | awaiting (options : Options) (option : FileOption)
  | help
  deriving DecidableEq, Repr

/-- Read one argument that consists of letters. -/
def readLetters (options : Options) : List Char → Except UsageError Progress
  | [] => .ok (.options options)
  | letter :: rest =>
      match Switch.ofLetter? letter with
      | none => .error (.unexpected ("-" ++ String.ofList (letter :: rest)))
      | some .help => .ok .help
      | some .verbose => do
          let options ← options.setVerbose
          readLetters options rest
      | some (.file option) =>
          match rest with
          | [] => .ok (.awaiting options option)
          | '=' :: value => .options <$> options.set option (String.ofList value)
          | value => .options <$> options.set option (String.ofList value)

/-- Read one argument with two hyphens and a name. -/
def readLong (options : Options) (name : String) (value : Option String) :
    Except UsageError Progress :=
  match Switch.ofName? name, value with
  | none, _ => .error (.unexpected ("--" ++ name))
  | some .help, none => .ok .help
  | some .verbose, none => .options <$> options.setVerbose
  | some (.file option), none => .ok (.awaiting options option)
  | some (.file option), some value => .options <$> options.set option value
  | some _, some _ => .error (.unexpected ("--" ++ name))

/-- The operands and flags of a command. -/
structure Operands where
  values : List String := []
  verbose : Bool := false
  deriving DecidableEq, Repr

/-- Whether letters after the command ask for help, and otherwise whether the flag
is set after them. -/
def readFlags (verbose : Bool) : List Char → Except UsageError (Option Bool)
  | [] => .ok (some verbose)
  | 'h' :: _ => .ok none
  | 'v' :: rest => if verbose then .error (.repeated "verbose") else readFlags true rest
  | letter :: _ => .error (.unexpected ("-" ++ String.ofList [letter]))

/-- Add an operand, unless there are enough of them. -/
def Operands.add (arity : Nat) (operands : Operands) (value : String) :
    Except UsageError Operands :=
  if operands.values.length < arity then
    .ok { operands with values := operands.values ++ [value] }
  else .error (.unexpected value)

/-- Read the arguments after `--`, all of which are operands. -/
def readPlain (arity : Nat) (operands : Operands) : List String → Except UsageError Operands
  | [] => .ok operands
  | argument :: rest => do
      let operands ← operands.add arity argument
      readPlain arity operands rest

/-- Read the arguments after a command; nothing if help is asked for. -/
def readOperands (arity : Nat) (operands : Operands) :
    List String → Except UsageError (Option Operands)
  | [] => .ok (some operands)
  | argument :: rest =>
      match shapeOf argument with
      | .separator => some <$> readPlain arity operands rest
      | .long "help" none => .ok none
      | .long "verbose" none =>
          if operands.verbose then .error (.repeated "verbose")
          else readOperands arity { operands with verbose := true } rest
      | .long _ _ => .error (.unexpected argument)
      | .letters letters => do
          match ← readFlags operands.verbose letters with
          | none => return none
          | some verbose => readOperands arity { operands with verbose } rest
      | .word => do
          let operands ← operands.add arity argument
          readOperands arity operands rest

/-- The command with the given operands. -/
def CommandName.command (name : CommandName) (operands : List String) :
    Except UsageError Command :=
  match name, operands with
  | .validate, [] => .ok .validate
  | .workflows, [] => .ok .workflows
  | .show, [workflow] => .ok (.show workflow)
  | .get, [category, key] => .ok (.get category key)
  | name, _ => .error (.operandsRequired name)

/-- What a command line says. -/
inductive Arguments where
  | help
  | command (options : Options) (command : Command)
  deriving DecidableEq, Repr

/-- Check the words after `help`: at most one, which is a command. -/
def readHelp : List String → Except UsageError Arguments
  | [] => .ok .help
  | word :: rest =>
      if word = helpWord ∨ (CommandName.ofWord? word).isSome then
        match rest with
        | [] => .ok .help
        | other :: _ => .error (.unknownCommand other)
      else .error (.unknownCommand word)

/-- Read a command and the arguments after it. -/
def readCommand (options : Options) (word : String) (rest : List String) :
    Except UsageError Arguments :=
  if word = helpWord then readHelp rest
  else
    match CommandName.ofWord? word with
    | none => .error (.unknownCommand word)
    | some name => do
        match ← readOperands name.arity {} rest with
        | none => return .help
        | some operands =>
            let command ← name.command operands.values
            let verbose := options.verbose || operands.verbose
            return .command { options with verbose } command

/-- Read the arguments up to the command, and go on with those after it. -/
def readArguments : Progress → List String → Except UsageError Arguments
  | .help, _ => .ok .help
  | .options _, [] => .error .missingCommand
  | .awaiting _ option, [] => .error (.valueRequired option.name)
  | .awaiting options option, value :: rest =>
      match shapeOf value with
      | .word => do
          let options ← options.set option value
          readArguments (.options options) rest
      | _ => .error (.valueRequired option.name)
  | .options options, argument :: rest =>
      match shapeOf argument with
      | .separator => .error .missingCommand
      | .word => readCommand options argument rest
      | .long name value => do
          let progress ← readLong options name value
          readArguments progress rest
      | .letters letters => do
          let progress ← readLetters options letters
          readArguments progress rest

/-- The variables of an environment. -/
abbrev Environment := String → Option String

/-- The paths and the command of a command line. -/
structure Invocation where
  config : String
  gas : Option String
  runtime : Option String
  verbose : Bool
  command : Command
  deriving DecidableEq, Repr

namespace Invocation

/-- The path of the configuration where nothing else is said. -/
def defaultConfig : String := "uiflow.json"

/-- The path for an option that may be left to the environment, where it may not be
empty either. -/
def path? (environment : Environment) (options : Options) (option : FileOption) :
    Except UsageError (Option String) :=
  match options.get option with
  | some path => .ok (some path)
  | none =>
      match environment option.environmentName with
      | none => .ok none
      | some path =>
          if path.isEmpty then .error (.valueRequired option.name) else .ok (some path)

/-- The invocation that a command line stands for; nothing if help is asked for. -/
def read? (environment : Environment) (arguments : List String) :
    Except UsageError (Option Invocation) := do
  match ← readArguments (.options {}) arguments with
  | .help => return none
  | .command options command =>
      let config ← path? environment options .config
      let gas ← path? environment options .gas
      let runtime ← path? environment options .runtime
      return some
        { config := config.getD defaultConfig
          gas, runtime, verbose := options.verbose, command }

end Invocation

end Screenplay.CommandLine
