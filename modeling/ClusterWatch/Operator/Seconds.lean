import ClusterWatch.Operator.Number
import ClusterWatch.Text.Blank
import ClusterWatch.Time.Duration

/-!
# Numbers of seconds

A setting may be a positive number of seconds with white space around it.
-/

namespace ClusterWatch.Operator

/-- Why a text is no positive number of seconds. -/
inductive SecondsFailure where
  /-- It is the number zero. -/
  | zero
  /-- It is no number. -/
  | number (failure : NumberFailure)
  deriving DecidableEq, Repr

/-- Reads a positive number of seconds. -/
def Seconds.read (text : String) : Except SecondsFailure Duration :=
  match Number.read (Text.trim text.toList) with
  | .error failure => .error (.number failure)
  | .ok n => if n = 0 then .error .zero else .ok (Duration.ofSeconds n)

end ClusterWatch.Operator
