import Screenplay.Config.Error

/-!
# Errors of runs

What can go wrong while a workflow is carried out.  Engines report their own
failures with the same errors, most of them as failures of the platform.
-/

namespace Screenplay

/-- A failure of a run. -/
inductive RunError where
  | configuration (error : ConfigError)
  | missingElement (description : String)
  | unsupportedOperation (description : String)
  | invalidValue (description : String)
  | conditionNotMet (description : String)
  | platform (description : String)
  /-- A task of a workflow failed, for a reason of its own. -/
  | taskFailed (task kind workflow : String) (reason : RunError)
  deriving DecidableEq

namespace RunError

/-- The wording of an error. -/
def message : RunError → String
  | .configuration error => "Configuration error: " ++ error.message
  | .missingElement description => "UI element not found: " ++ description
  | .unsupportedOperation description => "Unsupported operation: " ++ description
  | .invalidValue description => "Invalid value: " ++ description
  | .conditionNotMet description => "Condition not met: " ++ description
  | .platform description => "Platform-specific error: " ++ description
  | .taskFailed task kind workflow reason =>
      "Task " ++ task ++ " with type " ++ kind ++ " in workflow " ++ workflow ++
        " failed: " ++ reason.message

/-- Whether an element was missing, be it for a task that failed for this reason. -/
def isMissingElement : RunError → Bool
  | .missingElement _ => true
  | .taskFailed _ _ _ reason => reason.isMissingElement
  | _ => false

end RunError

end Screenplay
