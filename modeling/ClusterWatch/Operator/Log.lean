/-!
# The log

A line of the log has a level and comes from a part of the program.
-/

namespace ClusterWatch.Operator

/-- How severe a line is. -/
inductive Level where
  | error
  | warn
  | info
  | debug
  | trace
  deriving DecidableEq, Repr

namespace Level

/-- The name of a level. -/
def name : Level → String
  | .error => "ERROR"
  | .warn => "WARN"
  | .info => "INFO"
  | .debug => "DEBUG"
  | .trace => "TRACE"

/-- A number that is greater for less severe levels. -/
def rank : Level → Nat
  | .error => 1
  | .warn => 2
  | .info => 3
  | .debug => 4
  | .trace => 5

end Level

/-- A line of the log. -/
structure Line where
  level : Level
  /-- The path of the part of the program that it comes from. -/
  part : String
  text : String
  deriving DecidableEq

/-- The names of the fields of a line: there is its text alone. -/
def Line.fields (_ : Line) : List String :=
  ["message"]

end ClusterWatch.Operator
