/-!
# Patterns

The value that a directive asks of a field is a number or a regular expression.
Here stands when a text is well formed as one: its groups and sets of characters
are closed, every repetition repeats something, and every escape is known.  A
repetition with counts in braces does not occur, since a brace ends the value.
-/

namespace ClusterWatch.Operator.Pattern

/-- What can come next in a pattern. -/
inductive Expectation where
  /-- Something new: nothing is there that could be repeated. -/
  | operand
  /-- Anything. -/
  | anything
  /-- The character that a backslash escapes. -/
  | escaped
  /-- The inside of a group, or a question mark. -/
  | groupHead
  /-- What follows the question mark at the head of a group. -/
  | groupKind
  /-- More flags of a group. -/
  | flags
  /-- The opening bracket of the name of a group. -/
  | nameHead
  /-- The first character of the name of a group. -/
  | nameStart
  /-- More of the name of a group. -/
  | name
  /-- The inside of a set, which may begin with a circumflex. -/
  | setHead
  /-- The inside of a set, of which a closing bracket can be the first member. -/
  | setStart
  deriving DecidableEq, Repr

/-- A pattern that has been read up to some character. -/
structure Reading where
  /-- How many groups are open. -/
  groups : Nat := 0
  /-- How many sets of characters are open, one in another. -/
  sets : Nat := 0
  expects : Expectation := .operand
  deriving DecidableEq, Repr

namespace Reading

/-- The character stands for itself, for a class of characters or for a place where
a backslash is before it. -/
def isEscape (c : Char) : Bool :=
  if c.isAlphanum then
    ['a', 'f', 't', 'n', 'r', 'v', 'A', 'z', 'd', 'D', 's', 'S', 'w', 'W', 'x', 'u', 'U', 'p',
      'P'].contains c
  else 0x20 < c.toNat && c.toNat < 0x7F && c ≠ '<' && c ≠ '>'

/-- The character is a flag of a group. -/
def isFlag (c : Char) : Bool :=
  ['i', 'm', 's', 'U', 'u', 'x', 'R', '-'].contains c

/-- Reads a character inside of a set. -/
def stepSet (r : Reading) (c : Char) : Reading :=
  if c = '\\' then { r with expects := .escaped }
  else if c = '[' then { r with sets := r.sets + 1, expects := .setHead }
  else if c = '^' ∧ r.expects = .setHead then { r with expects := .setStart }
  else if c = ']' ∧ r.expects = .anything then { r with sets := r.sets - 1 }
  else { r with expects := .anything }

/-- Closes a group. -/
def close (r : Reading) (expects : Expectation) : Option Reading :=
  if r.groups = 0 then none else some { r with groups := r.groups - 1, expects := expects }

/-- Reads a character where anything or something new is expected. -/
def stepPlain (r : Reading) (c : Char) : Option Reading :=
  match c with
  | '\\' => some { r with expects := .escaped }
  | '[' => some { r with sets := 1, expects := .setHead }
  | '(' => some { r with groups := r.groups + 1, expects := .groupHead }
  | ')' => r.close .anything
  | '|' => some { r with expects := .operand }
  | '\x7b' => none
  | _ =>
      if c = '*' ∨ c = '+' ∨ c = '?' then if r.expects = .anything then some r else none
      else some { r with expects := .anything }

/-- Reads a character of the head of a group. -/
def stepHead (r : Reading) (c : Char) : Option Reading :=
  match r.expects with
  | .groupKind =>
      if c = 'P' then some { r with expects := .nameHead }
      else if c = '<' then some { r with expects := .nameStart }
      else if c = ':' then some { r with expects := .operand }
      else if isFlag c then some { r with expects := .flags }
      else none
  | .flags =>
      if c = ':' then some { r with expects := .operand }
      else if c = ')' then r.close .operand
      else if isFlag c then some r
      else none
  | .nameHead => if c = '<' then some { r with expects := .nameStart } else none
  | .nameStart =>
      if c.isAlpha ∨ c = '_' ∨ 0x80 ≤ c.toNat then some { r with expects := .name } else none
  | _ =>
      if c = '>' then some { r with expects := .operand }
      else if c.isAlphanum ∨ ['_', '.', '[', ']'].contains c ∨ 0x80 ≤ c.toNat then some r
      else none

/-- Reads a character. -/
def step (r : Reading) (c : Char) : Option Reading :=
  match r.expects with
  | .escaped => if isEscape c then some { r with expects := .anything } else none
  | .operand => r.stepPlain c
  | .anything => if r.sets = 0 then r.stepPlain c else some (r.stepSet c)
  | .setHead => some (r.stepSet c)
  | .setStart => some (r.stepSet c)
  | .groupHead =>
      if c = '?' then some { r with expects := .groupKind }
      else { r with expects := .operand }.stepPlain c
  | _ => r.stepHead c

/-- A pattern may end here. -/
def isComplete (r : Reading) : Bool :=
  r.groups = 0 && r.sets = 0 && r.expects ≠ .escaped

end Reading

/-- The text is a number with a plus sign. -/
def isPositive (text : List Char) : Bool :=
  match text with
  | '+' :: rest =>
      rest.all (fun c => c.isDigit || c = '.') && rest.any Char.isDigit && rest.count '.' ≤ 1
  | _ => false

/-- The text is a number or a well formed pattern. -/
def isValid (text : List Char) : Bool :=
  isPositive text || (text.foldlM Reading.step {}).any Reading.isComplete

end ClusterWatch.Operator.Pattern
