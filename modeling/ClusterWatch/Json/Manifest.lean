import ClusterWatch.Json.Basic
import ClusterWatch.Text.Split

/-!
# JSON values as manifests

A manifest shows a value as indented YAML: the members of an object and the items
of an array have lines of their own.  A text stands as it is unless it could be
taken for something else; one of several lines is a block of lines.
-/

namespace ClusterWatch.Json.Manifest

/-- The characters that mean something at the start of a scalar. -/
def indicators : List Char :=
  ['-', '?', ':', ',', '[', ']', '\x7b', '\x7d', '#', '&', '*', '!', '|', '>', '\'', '\"', '%', '@', '\x60']

/-- The texts that stand for other values. -/
def reserved : List String :=
  ["", "~", "null", "Null", "NULL", "true", "True", "TRUE", "false", "False", "FALSE",
    ".inf", ".Inf", ".INF", ".nan", ".NaN", ".NAN"]

/-- The text begins like a number. -/
def startsLikeNumber : List Char → Bool
  | c :: d :: _ => c.isDigit || ((c = '+' || c = '-' || c = '.') && (d.isDigit || d = '.'))
  | [c] => c.isDigit
  | [] => false

/-- A colon before a blank or at the end, or a number sign after a blank. -/
def hasSeparator : List Char → Bool
  | [] => false
  | [c] => c = ':'
  | c :: d :: rest => (c = ':' && d = ' ') || (c = ' ' && d = '#') || hasSeparator (d :: rest)

/-- The text of one line can stand as it is. -/
def isPlain (text : List Char) : Bool :=
  !reserved.contains (String.ofList text) && !startsLikeNumber text &&
    !hasSeparator text && text.head? != some ' ' && text.getLast? != some ' ' &&
    match text with
    | [] => false
    | c :: _ => !indicators.contains c

/-- A text of one line, between quotes if it has to be. -/
def scalarText (text : List Char) : List Char :=
  if isPlain text then text
  else ('\'' :: text.flatMap fun c => if c = '\'' then [c, c] else [c]) ++ ['\'']

/-- A line two columns further right; an empty line stays empty. -/
def indent (line : List Char) : List Char :=
  if line = [] then [] else ' ' :: ' ' :: line

/-- How a value stands after the mark of its place. -/
inductive Node where
  /-- On the same line. -/
  | inline (text : List Char)
  /-- As lines below, after a heading on the same line. -/
  | block (heading : List Char) (lines : List (List Char))
  /-- As the lines of an object. -/
  | members (lines : List (List Char))
  /-- As the lines of an array. -/
  | items (lines : List (List Char))

/-- The mark of a block of lines: whether it is indented by its own blanks, and
what becomes of the ends of its last lines. -/
def blockHeading (text : List Char) : List Char :=
  let hint := if text.head? = some ' ' ∨ text.head? = some '\n' then ['2'] else []
  let chomping :=
    match text.reverse with
    | '\n' :: '\n' :: _ => ['+']
    | ['\n'] => ['+']
    | '\n' :: _ => []
    | _ => ['-']
  '|' :: (hint ++ chomping)

/-- The node of a text. -/
def textNode (text : List Char) : Node :=
  if text.contains '\n' then
    let lines := Text.splitAt '\n' text
    .block (blockHeading text)
      ((if text.getLast? = some '\n' then lines.dropLast else lines).map indent)
  else .inline (scalarText text)

/-- The lines of a member of an object. -/
def memberLines (key : List Char) : Node → List (List Char)
  | .inline text => [scalarText key ++ [':', ' '] ++ text]
  | .block heading lines => (scalarText key ++ [':', ' '] ++ heading) :: lines
  | .members lines => (scalarText key ++ [':']) :: lines.map indent
  | .items lines => (scalarText key ++ [':']) :: lines

/-- Lines after the mark of an item. -/
def itemMark : List (List Char) → List (List Char)
  | [] => [['-']]
  | line :: lines => ('-' :: ' ' :: line) :: lines.map indent

/-- The lines of an item of an array. -/
def itemLines : Node → List (List Char)
  | .inline text => [['-', ' '] ++ text]
  | .block heading lines => (['-', ' '] ++ heading) :: lines
  | .members lines => itemMark lines
  | .items lines => itemMark lines

mutual

/-- The node of a value. -/
def node : Json → Node
  | .null => .inline ['n', 'u', 'l', 'l']
  | .bool true => .inline ['t', 'r', 'u', 'e']
  | .bool false => .inline ['f', 'a', 'l', 's', 'e']
  | .int n => .inline (intChars n)
  | .real negative x => .inline (realChars negative x)
  | .string s => textNode s.toList
  | .array [] => .inline ['[', ']']
  | .array (item :: rest) => .items (arrayLines (item :: rest))
  | .object [] => .inline ['\x7b', '\x7d']
  | .object (member :: rest) => .members (objectLines (member :: rest))

/-- The lines of the items of an array. -/
def arrayLines : List Json → List (List Char)
  | [] => []
  | item :: rest => itemLines (node item) ++ arrayLines rest

/-- The lines of the members of an object. -/
def objectLines : List (String × Json) → List (List Char)
  | [] => []
  | (key, value) :: rest => memberLines key.toList (node value) ++ objectLines rest

end

/-- The lines of a whole manifest. -/
def rootLines : Node → List (List Char)
  | .inline text => [text]
  | .block heading lines => heading :: lines
  | .members lines => lines
  | .items lines => lines

/-- The manifest of a value. -/
def write (value : Json) : String :=
  String.ofList ((rootLines (node value)).flatMap fun line => line ++ ['\n'])

end ClusterWatch.Json.Manifest
