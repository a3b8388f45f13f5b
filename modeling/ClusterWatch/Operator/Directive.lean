import ClusterWatch.Operator.Log
import ClusterWatch.Operator.Number
import ClusterWatch.Operator.Pattern
import ClusterWatch.Text.Alphanumeric
import ClusterWatch.Text.Blank

/-!
# Directives for the log

A directive sets the least severe level that is shown of some lines:

* `debug` is about every line;
* `a::b` and `a::b=debug` are about the parts of the program below the path `a::b`,
  the former shows all of their lines;
* `a::b[c]=debug` is about what happens inside of a span named `c`;
* `a::b[c{d=e}]=debug` is also about a field named `d`, with the value `e`.

White space around a directive is passed over where its marks are looked for, but
belongs to it where it is cut: a piece lies as far from the beginning of the whole
text as its mark lies from the first mark.
-/

namespace ClusterWatch.Operator

/-- What a directive asks of a field. -/
structure FieldPattern where
  name : List Char
  value : Option (List Char)
  deriving DecidableEq

/-- What is shown of some lines. -/
structure Directive where
  /-- The path of the parts that it is about. -/
  path : Option String := none
  /-- The name of the span that it is about. -/
  span : Option String := none
  /-- The field that it is about. -/
  field : Option FieldPattern := none
  /-- The greatest rank that is shown. -/
  limit : Nat
  deriving DecidableEq

namespace Directive

/-! ## Reading -/

/-- The names of limits. -/
def limits : List (String × Nat) :=
  [("off", 0), ("error", Level.error.rank), ("warn", Level.warn.rank),
    ("info", Level.info.rank), ("debug", Level.debug.rank), ("trace", Level.trace.rank)]

/-- The limit with a name, in either case, or a number. -/
def limit? (text : List Char) : Option Nat :=
  match Number.read text with
  | .ok n => if n ≤ Level.trace.rank then some n else none
  | .error _ => limits.lookup (String.ofList (text.map Char.toLower))

/-- The character may begin a directive that is about a path or about every line. -/
def startsPath (c : Char) : Bool :=
  c = '-' || c = ':' || c = '_' || Text.isAlphanumeric c

/-- How far from the beginning of a directive the next of some marks lies, and the
directive from that mark on. -/
def upTo (isMark : Char → Bool) (start : Nat) (rest : List Char) : Nat × List Char :=
  (start + Text.byteCount (rest.takeWhile fun c => !isMark c),
    rest.dropWhile fun c => !isMark c)

/-- Reads the level at the end of a text; without one all levels are meant. -/
def limitFrom? (start : Nat) (text : List Char) : Option Nat := do
  let (_, level) ← Text.cutBytes? start text
  if level = [] then some Level.trace.rank else limit? level

/-- Reads what follows a bracket that closes. -/
def limitAfterSpan? (text : List Char) (start : Nat) : List Char → Option Nat
  | [] => some Level.trace.rank
  | '=' :: _ => limitFrom? (start + 1) text
  | _ => none

/-- Reads a field: a name, or a name and a value. -/
def fieldPattern? (text : List Char) : Option FieldPattern :=
  match Text.splitAt '=' text with
  | name :: rest =>
      if text ≠ [] ∧ rest.head?.all Pattern.isValid then some ⟨name, rest.head?⟩ else none
  | [] => none

/-- Reads a directive from the inside of its brackets on.  Braces without a name
before them are about no span. -/
def readSpan? (text : List Char) (path : Option String) (start : Nat) (rest : List Char) :
    Option Directive := do
  let (stop, rest) := upTo (fun c => c = ']' ∨ c = '\x7b') start rest
  let name ← Text.slice? start stop text
  match rest with
  | ']' :: rest =>
      let limit ← limitAfterSpan? text (stop + 1) rest
      return { path := path, span := some (String.ofList name), limit := limit }
  | _ :: rest =>
      let (close, rest) := upTo (· = '\x7d') (stop + 1) rest
      match rest with
      | _ :: ']' :: rest =>
          let field ← fieldPattern? (← Text.slice? (stop + 1) close text)
          let limit ← limitAfterSpan? text (close + 2) rest
          let span := if name = [] then none else some (String.ofList name)
          return { path := path, span := span, field := some field, limit := limit }
      | _ => none
  | [] => none

/-- Reads a directive. -/
def read? (text : List Char) : Option Directive :=
  let trimmed := Text.trim text
  match trimmed with
  | [] => none
  | '[' :: rest => readSpan? text none 1 rest
  | c :: _ =>
      if startsPath c then
        let (stop, rest) := upTo (fun c => c = '=' ∨ c = '[') 0 trimmed
        match rest with
        | [] =>
            match limit? text with
            | some limit => some { limit := limit }
            | none => some { path := some (String.ofList text), limit := Level.trace.rank }
        | mark :: rest => do
            let path ← Text.slice? 0 stop text
            if mark = '[' then readSpan? text (some (String.ofList path)) (stop + 1) rest
            else
              let limit ← limitFrom? (stop + 1) text
              return { path := some (String.ofList path), limit := limit }
      else none

/-! ## Meaning -/

/-- The directive asks for nothing but the part and the fields of a line. -/
def isStatic (d : Directive) : Bool :=
  d.span.isNone && d.field.all (·.value.isNone)

/-- The directive is about a line: about a path above its part and a field that it
has.  No line is inside of a span. -/
def fits (d : Directive) (line : Line) : Bool :=
  d.isStatic && d.path.all (fun path => path.toList.isPrefixOf line.part.toList) &&
    d.field.all fun field => line.fields.contains (String.ofList field.name)

/-- The length of the path of a directive; none at all is less than any. -/
def depth (d : Directive) : Nat :=
  match d.path with
  | none => 0
  | some path => path.utf8ByteSize + 1

/-- The other directive is at least as specific: it has a longer path, or one of
the same length and a field if this has one. -/
def yieldsTo (d other : Directive) : Bool :=
  d.depth < other.depth ||
    d.depth = other.depth && (d.field.isNone || other.field.isSome)

end Directive

end ClusterWatch.Operator
