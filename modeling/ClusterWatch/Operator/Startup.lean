import ClusterWatch.Operator.Config
import ClusterWatch.Operator.LogFilter

/-!
# Startup

What the operator does before it watches anything: it reads its configuration and
says so in the log, and then looks for a Kubernetes API.
-/

namespace ClusterWatch.Operator

/-- The part of the program that starts up. -/
def mainPart : String :=
  "elasticsearch_controller"

/-- The part of the program that watches. -/
def controllerPart : String :=
  "elasticsearch_controller::controller"

/-- A line of the startup. -/
def started (text : String) : Line :=
  ⟨.info, mainPart, text⟩

/-- A whole number of seconds. -/
def secondsText (d : Duration) : String :=
  Text.decimal d.seconds ++ "s"

/-- The first line of the log. -/
def greeting : Line :=
  started "Starting Elasticsearch Controller"

/-- The lines that show a configuration and announce the search for an API. -/
def configLines (config : Config) : List Line :=
  [started "Configuration:",
    started ("  Namespace: " ++ config.watched.getD "all namespaces"),
    started ("  Observation interval: " ++ secondsText config.settings.interval),
    started ("  Request timeout: " ++ secondsText config.settings.timeout),
    ⟨.info, controllerPart, "Initializing Elasticsearch Controller"⟩]

/-- Why the operator ends before it watches anything. -/
inductive StartupError where
  | config (error : ConfigError)
  /-- There is no Kubernetes API. -/
  | noApi

/-- How a startup error is shown when the operator ends. -/
def StartupError.report : StartupError → String
  | .config error => "Error: InvalidConfig(" ++ Text.quote error.text ++ ")"
  | .noApi => "Error: Kube"

/-- The lines and the error of a startup where there is no Kubernetes API. -/
def startAlone (given : Variables) : List Line × StartupError :=
  match Config.ofVariables given with
  | .error error => ([greeting], .config error)
  | .ok config => (greeting :: configLines config, .noApi)

end ClusterWatch.Operator
