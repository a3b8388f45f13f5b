import ClusterWatch.Operator.Directive

/-!
# Filters of the log

A filter is a list of directives.  Of those that are about a line the most
specific one decides whether it is shown, and a line that none is about is
hidden.
-/

namespace ClusterWatch.Operator

/-- A filter of lines. -/
abbrev LogFilter : Type :=
  List Directive

namespace LogFilter

/-- The filter that applies unless another is given. -/
def default : LogFilter :=
  [{ limit := Level.info.rank }]

/-- Reads a filter: directives between commas.  One without directives shows errors
only. -/
def read? (text : String) : Option LogFilter := do
  let directives ← ((Text.splitAt ',' text.toList).filter (· ≠ [])).mapM Directive.read?
  return if directives = [] then [{ limit := Level.error.rank }] else directives

/-- The filter that a variable gives; one that is unset or cannot be read does not
count. -/
def ofVariable (value : Option String) : LogFilter :=
  (value.bind read?).getD default

/-- The more specific of two directives; of equal ones the later. -/
def closer (best : Option Directive) (d : Directive) : Option Directive :=
  match best with
  | none => some d
  | some b => if b.yieldsTo d then some d else some b

/-- The directive that decides about a line. -/
def decisive? (filter : LogFilter) (line : Line) : Option Directive :=
  (filter.filter (·.fits line)).foldl closer none

/-- The filter shows a line. -/
def shows (filter : LogFilter) (line : Line) : Bool :=
  (filter.decisive? line).any fun d => line.level.rank ≤ d.limit

end LogFilter

end ClusterWatch.Operator
