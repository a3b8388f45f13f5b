import ClusterWatch.Observation.Basic
import ClusterWatch.Operator.Seconds
import ClusterWatch.Text.Quoted

/-!
# Configuration

The operator is configured by variables of its environment: the namespace it
watches, the time between two observations and the limit of a request.  Each may
be unset.
-/

namespace ClusterWatch.Operator

open Observation (Settings)

/-- A variable that does not have a usable value. -/
structure ConfigError where
  key : String
  value : String
  failure : SecondsFailure
  deriving DecidableEq

namespace ConfigError

/-- What is wrong with a text that is no number of seconds. -/
def reason : NumberFailure → String
  | .empty => "cannot parse integer from empty string"
  | .invalidDigit => "invalid digit found in string"
  | .tooLarge => "number too large to fit in target type"

/-- The wording of an error. -/
def text (e : ConfigError) : String :=
  match e.failure with
  | .zero => e.key ++ " must be greater than 0"
  | .number failure =>
      e.key ++ " must be a number of seconds, got " ++ Text.quote e.value ++ ": " ++ reason failure

/-- The wording of an error, with its kind. -/
def message (e : ConfigError) : String :=
  "Invalid configuration: " ++ e.text

end ConfigError

/-- The value of a variable that is a positive number of seconds. -/
def secondsOf (key : String) (value : Option String) (default : Duration) :
    Except ConfigError Duration :=
  match value with
  | none => .ok default
  | some value =>
      match Seconds.read value with
      | .ok duration => .ok duration
      | .error failure => .error ⟨key, value, failure⟩

/-- The variables of the environment that matter. -/
structure Variables where
  watchNamespace : Option String
  observationInterval : Option String
  requestTimeout : Option String

/-- The configuration of the operator. -/
structure Config where
  /-- The namespace to watch, unless all are. -/
  watched : Option String
  settings : Settings

namespace Config

/-- The name of the variable for the time between two observations. -/
def intervalKey : String :=
  "OBSERVATION_INTERVAL_SECONDS"

/-- The name of the variable for the limit of a request. -/
def timeoutKey : String :=
  "REQUEST_TIMEOUT_SECONDS"

/-- The configuration that variables give.  An empty namespace counts as unset. -/
def ofVariables (given : Variables) : Except ConfigError Config := do
  let interval ←
    secondsOf intervalKey given.observationInterval Settings.defaultInterval
  let timeout ← secondsOf timeoutKey given.requestTimeout Settings.defaultTimeout
  return ⟨given.watchNamespace.filter (· ≠ ""), ⟨interval, timeout⟩⟩

end Config

end ClusterWatch.Operator
