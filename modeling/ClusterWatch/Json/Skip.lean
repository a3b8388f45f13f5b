import ClusterWatch.Json.Scan

/-!
# Passing over a JSON value

A value that nothing asks for has to be well formed, but it is not read.  Open
arrays and objects are kept on a stack, so nesting has no limit.
-/

namespace ClusterWatch.Json

/-- An array or an object that is not closed yet. -/
inductive Frame where
  | array
  | object
  deriving DecidableEq, Repr

/-- Passes over a value that is neither an array nor an object. -/
def skipScalar (s : List Char) : Except Failure (List Char) :=
  match s with
  | [] => .error .incomplete
  | c :: rest =>
      if c = '\"' then skipString rest
      else if c = 'n' then readWord ['u', 'l', 'l'] rest
      else if c = 't' then readWord ['r', 'u', 'e'] rest
      else if c = 'f' then readWord ['a', 'l', 's', 'e'] rest
      else if c = '-' then skipNumber rest
      else if c.isDigit then skipNumber (c :: rest)
      else .error .malformed

/-- Reads a colon. -/
def readColon (s : List Char) : Except Failure (List Char) :=
  match skipSpace s with
  | [] => .error .incomplete
  | c :: rest => if c = ':' then .ok rest else .error .malformed

/-- Passes over a key and its colon. -/
def skipKey (s : List Char) : Except Failure (List Char) := do
  match skipSpace s with
  | [] => .error .incomplete
  | c :: rest => if c = '\"' then readColon (← skipString rest) else .error .malformed

/-- Where the passage over a value stands: before a value, or after one. -/
inductive Position where
  | before
  | after
  deriving DecidableEq, Repr

/-- Where to go on, inside which frames, and with which text. -/
structure Passage where
  position : Position
  frames : List Frame
  rest : List Char

namespace Passage

/-- Enters an array or an object, or passes over another value. -/
def enter (frames : List Frame) (s : List Char) : Except Failure Passage :=
  match skipSpace s with
  | '[' :: rest =>
      match skipSpace rest with
      | ']' :: rest => .ok ⟨.after, frames, rest⟩
      | rest => .ok ⟨.before, .array :: frames, rest⟩
  | '{' :: rest =>
      match skipSpace rest with
      | '}' :: rest => .ok ⟨.after, frames, rest⟩
      | rest => (skipKey rest).map fun rest => ⟨.before, .object :: frames, rest⟩
  | s => (skipScalar s).map fun rest => ⟨.after, frames, rest⟩

/-- Goes on to the next value of the innermost frame, or leaves the frame. -/
def leave (frame : Frame) (frames : List Frame) (s : List Char) : Except Failure Passage :=
  match frame, skipSpace s with
  | _, [] => .error .incomplete
  | .array, c :: rest =>
      if c = ',' then .ok ⟨.before, .array :: frames, rest⟩
      else if c = ']' then .ok ⟨.after, frames, rest⟩
      else .error .malformed
  | .object, c :: rest =>
      if c = ',' then (skipKey rest).map fun rest => ⟨.before, .object :: frames, rest⟩
      else if c = '}' then .ok ⟨.after, frames, rest⟩
      else .error .malformed

end Passage

/-- Follows a passage to its end.  Every step takes a character, so the number of
characters bounds the number of steps. -/
def skipSteps : Nat → Passage → Except Failure (List Char)
  | 0, _ => .error .incomplete
  | steps + 1, passage =>
      match passage.position, passage.frames with
      | .before, frames => do skipSteps steps (← Passage.enter frames passage.rest)
      | .after, [] => .ok passage.rest
      | .after, frame :: frames => do skipSteps steps (← Passage.leave frame frames passage.rest)

/-- Passes over a value. -/
def skipValue (s : List Char) : Except Failure (List Char) :=
  skipSteps (s.length + 2) ⟨.before, [], s⟩

end ClusterWatch.Json
