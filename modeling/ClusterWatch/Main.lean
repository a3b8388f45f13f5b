import ClusterWatch.Json.Manifest
import ClusterWatch.Operator.Startup
import ClusterWatch.Resource.Definition

/-!
# Command line

`crdgen` prints the definition of the cluster resource.  Without it the operator
starts up.
-/

namespace ClusterWatch

/-- The variables of the environment, and the filter of the log. -/
def readVariables : IO (Operator.Variables × Operator.LogFilter) := do
  let given : Operator.Variables :=
    { watchNamespace := ← IO.getEnv "WATCH_NAMESPACE"
      observationInterval := ← IO.getEnv Operator.Config.intervalKey
      requestTimeout := ← IO.getEnv Operator.Config.timeoutKey }
  return (given, Operator.LogFilter.ofVariable (← IO.getEnv "RUST_LOG"))

/-- Starts the operator. -/
def startOperator : IO UInt32 := do
  let (given, filter) ← readVariables
  let (lines, error) := Operator.startAlone given
  for line in lines.filter filter.shows do
    IO.println (line.level.name ++ " " ++ line.part ++ ": " ++ line.text)
  IO.eprintln error.report
  return 1

end ClusterWatch

open ClusterWatch in
/-- Runs the program that the arguments name. -/
def main (args : List String) : IO UInt32 :=
  match args with
  | ["crdgen"] => do
      IO.print (Json.Manifest.write Definition.resource)
      return 0
  | _ => startOperator
