import ClusterWatch.Decimal.Shortest

/-!
# JSON values and their text

A JSON value keeps the members of an object in order.  It is written without
blanks; in strings only the quote, the backslash and the controls are escaped.
-/

namespace ClusterWatch

open ClusterWatch.Decimal

/-- A JSON value. -/
inductive Json where
  | null
  | bool (value : Bool)
  | int (value : Int)
  | real (negative : Bool) (magnitude : Binary64)
  | string (value : String)
  | array (items : List Json)
  | object (members : List (String × Json))
  deriving Inhabited, Repr

namespace Json

/-! ## Text of numbers -/

/-- Numbers that are not integers are written in place when their first digit has
an exponent from `-5` to `15`, and otherwise with an exponent and its sign. -/
def realLayout : Layout := ⟨-5, 15⟩

/-- The text of a number that is not an integer.  It has a point or an exponent. -/
def realChars (negative : Bool) (magnitude : Binary64) : List Char :=
  (if negative then ['-'] else []) ++ magnitude.toChars realLayout

/-- The text of an integer. -/
def intChars (n : Int) : List Char :=
  (if n < 0 then ['-'] else []) ++ Nat.toDigits 10 n.natAbs

/-! ## Text of strings -/

/-- A hexadecimal digit, in lower case. -/
def hexDigit (n : Nat) : Char :=
  (Nat.toDigits 16 n).headD '0'

/-- How one character is written in a string. -/
def escapeChar (c : Char) : List Char :=
  if c = '\"' then ['\\', '\"']
  else if c = '\\' then ['\\', '\\']
  else if c = '\x08' then ['\\', 'b']
  else if c = '\x0c' then ['\\', 'f']
  else if c = '\n' then ['\\', 'n']
  else if c = '\r' then ['\\', 'r']
  else if c = '\t' then ['\\', 't']
  else if c.toNat < 0x20 then
    ['\\', 'u', '0', '0', hexDigit (c.toNat / 16), hexDigit (c.toNat % 16)]
  else [c]

/-- The written form of a string. -/
def stringChars (s : String) : List Char :=
  '\"' :: (s.toList.flatMap escapeChar ++ ['\"'])

/-! ## Text of values -/

mutual

/-- The characters of a value. -/
def toChars : Json → List Char
  | .null => ['n', 'u', 'l', 'l']
  | .bool true => ['t', 'r', 'u', 'e']
  | .bool false => ['f', 'a', 'l', 's', 'e']
  | .int n => intChars n
  | .real negative magnitude => realChars negative magnitude
  | .string s => stringChars s
  | .array items => '[' :: (itemsChars items ++ [']'])
  | .object members => '{' :: (membersChars members ++ ['}'])

/-- The items of an array, separated by commas. -/
def itemsChars : List Json → List Char
  | [] => []
  | [item] => toChars item
  | item :: rest => toChars item ++ ',' :: itemsChars rest

/-- The members of an object, separated by commas. -/
def membersChars : List (String × Json) → List Char
  | [] => []
  | [(key, value)] => stringChars key ++ ':' :: toChars value
  | (key, value) :: rest => stringChars key ++ ':' :: (toChars value ++ ',' :: membersChars rest)

end

/-- The text of a value. -/
def write (value : Json) : String :=
  String.ofList value.toChars

/-! ## Parts of values -/

/-- The value of the first member with the given key. -/
def member? (key : String) : Json → Option Json
  | .object members => members.lookup key
  | _ => none

/-- The members of an object without those that have no value. -/
def ofMembers (members : List (String × Option Json)) : Json :=
  .object (members.filterMap fun (key, value) => value.map fun v => (key, v))

end Json

end ClusterWatch
