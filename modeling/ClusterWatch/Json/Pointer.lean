import ClusterWatch.Json.Basic
import ClusterWatch.Text.Digits
import ClusterWatch.Text.Split

/-!
# Pointers into JSON values

A pointer is a text that names a part of a value: after each slash stands a key
of an object or the position of an item in an array.  In a step `~1` stands for a
slash and `~0` for a tilde.
-/

namespace ClusterWatch.Json

/-- A step with its two escapes resolved. -/
def unescapeStep : List Char → List Char
  | '~' :: '1' :: rest => '/' :: unescapeStep rest
  | '~' :: '0' :: rest => '~' :: unescapeStep rest
  | c :: rest => c :: unescapeStep rest
  | [] => []

/-- The position that a step names: decimal digits without leading zeros. -/
def position? (step : List Char) : Option Nat :=
  if step = [] ∨ step.any (fun c => !c.isDigit) ∨ (step.head? = some '0' ∧ step.length ≠ 1) then none
  else some (Text.ofDigits step)

/-- The part of a value to which one step leads. -/
def child? (value : Json) (step : List Char) : Option Json :=
  match value with
  | .object members => members.lookup (String.ofList step)
  | .array items => do items[← position? step]?
  | _ => none

/-- The steps of a pointer.  The empty pointer names the whole value, and every
other one begins with a slash. -/
def pointerSteps? : List Char → Option (List (List Char))
  | [] => some []
  | '/' :: rest => some ((Text.splitAt '/' rest).map unescapeStep)
  | _ => none

/-- The part of a value that a pointer names. -/
def at? (value : Json) (pointer : String) : Option Json := do
  (← pointerSteps? pointer.toList).foldlM child? value

end ClusterWatch.Json
