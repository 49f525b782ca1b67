import Screenplay.CommandLine.Arguments
import Screenplay.Config.Layers
import Screenplay.Config.Writer

/-!
# Reports

What an invocation prints.  A failure is reported with its causes, each on lines of
its own; if there are several they are numbered.
-/

namespace Screenplay.CommandLine

/-- What is left when the program ends. -/
structure Outcome where
  exitCode : UInt8
  output : String := ""
  errors : String := ""
  deriving DecidableEq, Repr

/-- A reason to end without an answer. -/
structure Failure where
  message : String
  causes : List String := []
  deriving DecidableEq, Repr

namespace Failure

/-- The failure that an error of the configuration is. -/
def ofConfig (error : ConfigError) : Failure :=
  { message := error.message, causes := error.cause?.toList }

/-- A failure that has another one as its cause. -/
def around (message : String) (failure : Failure) : Failure :=
  { message, causes := failure.message :: failure.causes }

/-- A text with a mark before its first line and an indentation before the others. -/
def hang (mark indentation text : String) : String :=
  mark ++ ("\n" ++ indentation).intercalate (text.splitToList (· == '\n'))

/-- A number, flush right in five places. -/
def numberMark (number : Nat) : String :=
  let digits := toString number
  String.ofList (List.replicate (5 - digits.length) ' ') ++ digits ++ ": "

/-- The causes, numbered from the given number on. -/
def numbered (number : Nat) : List String → List String
  | [] => []
  | cause :: causes =>
      hang (numberMark number) "       " cause :: numbered (number + 1) causes

/-- The failure with its causes. -/
def display (failure : Failure) : String :=
  match failure.causes with
  | [] => failure.message
  | [cause] => failure.message ++ "\n\nCaused by:\n" ++ hang "    " "    " cause
  | causes =>
      failure.message ++ "\n\nCaused by:\n" ++ "\n".intercalate (numbered 0 causes)

end Failure

/-- The answer, or the failure, as an outcome. -/
def outcome : Except Failure String → Outcome
  | .ok output => { exitCode := 0, output }
  | .error failure => { exitCode := 1, errors := "error: " ++ failure.display ++ "\n" }

/-- A line of a summary: a name in twelve places, and a number. -/
def summaryLine (name : String) (number : Nat) : String :=
  "  " ++ name ++ String.ofList (List.replicate (12 - name.length) ' ') ++ " " ++
    toString number ++ "\n"

/-- The workflows of a configuration, by name. -/
def workflowsOf (config : Config) : List Workflow :=
  config.workflows.entries.map Prod.snd

/-- What a configuration defines. -/
def summary (config : Config) : String :=
  let sections := Section.values.map fun part => summaryLine part.name (config.store.size part)
  let workflows := (workflowsOf config).map fun workflow =>
    "    " ++ workflow.name ++ " (" ++ toString workflow.tasks.length ++ " tasks)\n"
  "Config is valid\n" ++ String.join sections ++
    summaryLine Section.workflows.name config.workflows.size ++ String.join workflows

/-- The workflows with the numbers of their tasks. -/
def workflowList (config : Config) : String :=
  if config.workflows.isEmpty then "No workflows defined\n"
  else
    String.join <| (workflowsOf config).map fun workflow =>
      workflow.name ++ "\t" ++ toString workflow.tasks.length ++ "\n"

/-- One workflow, laid out. -/
def showWorkflow (config : Config) (name : String) : Except Failure String := do
  let workflow ← (config.workflow name).mapError Failure.ofConfig
  return workflow.toJson.pretty ++ "\n"

/-- The value of one name. -/
def getValue (config : Config) (category name : String) : Except Failure String := do
  let part ← (Section.ofName category).mapError fun error =>
    (Failure.ofConfig error).around ("Unknown category " ++ category)
  if part = .workflows then
    showWorkflow config name
  else
    match ← (config.store.get part name).mapError Failure.ofConfig with
    | .text value => return value ++ "\n"
    | .element value => return value.toJson.pretty ++ "\n"

/-- The answer to a command. -/
def answer (config : Config) : Command → Except Failure String
  | .validate => .ok (summary config)
  | .workflows => .ok (workflowList config)
  | .show workflow => showWorkflow config workflow
  | .get category name => getValue config category name

namespace Invocation

/-- The files of an invocation. -/
def layers (invocation : Invocation) (read : String → FileState) : Layers :=
  let file (path : String) : LayerFile := { path, state := read path }
  { base := file invocation.config
    gas := invocation.gas.map file
    runtime := invocation.runtime.map file }

/-- Load the configuration of an invocation. -/
def load (invocation : Invocation) (read : String → FileState) : Except Failure Config := do
  let config ← (invocation.layers read).load.mapError fun error =>
    (Failure.ofConfig error).around ("Failed to load config " ++ invocation.config)
  match config with
  | none => throw { message := "No config available at " ++ invocation.config }
  | some config => return config

/-- What an invocation prints, given what is found under each path. -/
def run (invocation : Invocation) (read : String → FileState) : Outcome :=
  outcome (invocation.load read >>= (answer · invocation.command))

end Invocation

/-- What is printed when help is asked for. -/
def helpText : String :=
  "Validate and inspect configurations of screen workflows\n\n" ++
  "Usage: screenplay [OPTIONS] COMMAND\n\n" ++
  "Commands:\n" ++
  "  validate           Load every layer and report what it defines\n" ++
  "  workflows          List the workflows with their number of tasks\n" ++
  "  show WORKFLOW      Print a workflow as JSON\n" ++
  "  get CATEGORY KEY   Print one value\n" ++
  "  help               Print this text\n\n" ++
  "Options:\n" ++
  "  -c, --config FILE    The configuration\n" ++
  "      --gas FILE       A layer that may define new names\n" ++
  "  -r, --runtime FILE   A layer that may only redefine names\n" ++
  "  -v, --verbose        Say which files are loaded\n" ++
  "  -h, --help           Print this text\n"

/-- What a command line prints. -/
def execute (environment : Environment) (read : String → FileState) (arguments : List String) :
    Outcome :=
  match Invocation.read? environment arguments with
  | .error error =>
      { exitCode := 2, errors := "error: " ++ error.message ++ "\n\n" ++ helpText }
  | .ok none => { exitCode := 0, output := helpText }
  | .ok (some invocation) => invocation.run read

end Screenplay.CommandLine
