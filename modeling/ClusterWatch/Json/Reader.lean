import ClusterWatch.Json.Skip

/-!
# Readers of single values

A reader takes a value of one type from the start of a text.  Where the value has
another type it says which one it found; to name that value it reads as much of
it as the message needs, so a text that breaks off there is reported as broken.
-/

namespace ClusterWatch.Json

/-- Takes a value from the start of a text and gives the text after it. -/
abbrev Reader (α : Type) := List Char → Except Failure (α × List Char)

namespace Reader

/-- Changes the value that is read. -/
def map {α β : Type} (f : α → β) (reader : Reader α) : Reader β := fun s =>
  match reader s with
  | .ok (a, rest) => .ok (f a, rest)
  | .error failure => .error failure

/-- Reads a value and then judges it. -/
def check {α β : Type} (reader : Reader α) (judge : α → Except Mismatch β) : Reader β := fun s =>
  match reader s with
  | .ok (a, rest) =>
      match judge a with
      | .ok b => .ok (b, rest)
      | .error cause => .error (.mismatch cause)
  | .error failure => .error failure

/-- Reads a value that takes up the whole text. -/
def decode {α : Type} (reader : Reader α) (text : String) : Except Failure α :=
  match reader text.toList with
  | .ok (a, rest) => if skipSpace rest = [] then .ok a else .error .malformed
  | .error failure => .error failure

end Reader

/-- The failure of a value that was to be something else and begins with `c`. -/
def wrongType (expected : String) (c : Char) (rest : List Char) : Failure :=
  let report (found : Found) : Failure := .mismatch (.wrongType found expected)
  let word (chars : List Char) (found : Found) : Failure :=
    match readWord chars rest with
    | .ok _ => report found
    | .error failure => failure
  let number (read : Except Failure (Number × List Char)) : Failure :=
    match read with
    | .ok (n, _) => report n.found
    | .error failure => failure
  if c = 'n' then word ['u', 'l', 'l'] .null
  else if c = 't' then word ['r', 'u', 'e'] (.bool true)
  else if c = 'f' then word ['a', 'l', 's', 'e'] (.bool false)
  else if c = '-' then number (readNumber true rest)
  else if c.isDigit then number (readNumber false (c :: rest))
  else if c = '\"' then
    match readString rest with
    | .ok (s, _) => report (.string s)
    | .error failure => failure
  else if c = '[' then report .sequence
  else if c = '{' then report .map
  else .malformed

/-- Reads a string that stands for a key. -/
def keyText : Reader String := fun s =>
  match skipSpace s with
  | [] => .error .incomplete
  | c :: rest => if c = '\"' then readString rest else .error .malformed

/-- Reads a string where `expected` names what is wanted. -/
def textAs (expected : String) : Reader String := fun s =>
  match skipSpace s with
  | [] => .error .incomplete
  | c :: rest => if c = '\"' then readString rest else .error (wrongType expected c rest)

/-- Reads a string. -/
def text : Reader String :=
  textAs "a string"

/-- Reads a truth value. -/
def boolean : Reader Bool := fun s =>
  match skipSpace s with
  | [] => .error .incomplete
  | c :: rest =>
      if c = 't' then (readWord ['r', 'u', 'e'] rest).map fun rest => (true, rest)
      else if c = 'f' then (readWord ['a', 'l', 's', 'e'] rest).map fun rest => (false, rest)
      else .error (wrongType "a boolean" c rest)

/-- Reads `null`, where a value that is not there is wanted. -/
def nothing : Reader Unit := fun s =>
  match skipSpace s with
  | [] => .error .incomplete
  | c :: rest =>
      if c = 'n' then (readWord ['u', 'l', 'l'] rest).map fun rest => ((), rest)
      else .error (wrongType "unit" c rest)

/-- Reads a number where `expected` names what is wanted. -/
def numberAs (expected : String) : Reader Number := fun s =>
  match skipSpace s with
  | [] => .error .incomplete
  | c :: rest =>
      if c = '-' then readNumber true rest
      else if c.isDigit then readNumber false (c :: rest)
      else .error (wrongType expected c rest)

/-- Reads an integer between `low` and `high`. -/
def integer (expected : String) (low high : Int) : Reader Int :=
  (numberAs expected).check fun
    | .int n =>
        if low ≤ n ∧ n ≤ high then .ok n else .error (.wrongValue (.int n) expected)
    | .real negative x => .error (.wrongType (.real negative x) expected)

/-- Reads an unsigned integer of 32 bits. -/
def uint32 : Reader UInt32 :=
  (integer "u32" 0 4294967295).map fun n => UInt32.ofNat n.toNat

/-- Reads an unsigned integer of 16 bits. -/
def uint16 : Reader UInt16 :=
  (integer "u16" 0 65535).map fun n => UInt16.ofNat n.toNat

/-- Reads a signed integer of 64 bits. -/
def int64 : Reader Int64 :=
  (integer "i64" (-9223372036854775808) 9223372036854775807).map Int64.ofInt

/-- Reads `null` as nothing, and any other value with the given reader. -/
def optional {α : Type} (reader : Reader α) : Reader (Option α) := fun s =>
  match skipSpace s with
  | 'n' :: rest => (readWord ['u', 'l', 'l'] rest).map fun rest => (none, rest)
  | _ => reader.map some s

/-- Reads a timestamp. -/
def timestamp : Reader Timestamp :=
  (textAs "an RFC 3339 formatted date and time string").check fun s =>
    match Rfc3339.read s with
    | .ok t => .ok t
    | .error failure => .error (.timestamp failure)

/-- The value of a name. -/
def variant {α : Type} (known : List (String × α)) (name : String) : Except Mismatch α :=
  match known.lookup name with
  | some a => .ok a
  | none => .error (.unknownVariant name (known.map Prod.fst))

/-- Reads one of the known names: as a string, or as the key of an object whose
only member is `null`. -/
def oneOf {α : Type} (known : List (String × α)) : Reader α := fun s =>
  match skipSpace s with
  | [] => .error .incomplete
  | c :: rest =>
      if c = '\"' then Reader.check text (variant known) (c :: rest)
      else if c = '{' then do
        let (a, rest) ← keyText.check (variant known) rest
        let rest ← readColon rest
        let (_, rest) ← nothing rest
        match skipSpace rest with
        | [] => .error .incomplete
        | c :: rest => if c = '}' then .ok (a, rest) else .error .malformed
      else .error .malformed

/-! ## Sequences and maps -/

/-- Where a sequence or an object stands before its next entry: at its end, or at
the text of an entry. -/
inductive Next where
  | done (rest : List Char)
  | entry (rest : List Char)

/-- Finds the next element of a sequence. -/
def nextElement (first : Bool) (s : List Char) : Except Failure Next :=
  match skipSpace s with
  | [] => .error .incomplete
  | c :: rest =>
      if c = ']' then .ok (.done rest)
      else if first then .ok (.entry (c :: rest))
      else if c = ',' then
        match skipSpace rest with
        | [] => .error .incomplete
        | c :: rest => if c = ']' then .error .malformed else .ok (.entry (c :: rest))
      else .error .malformed

/-- Finds the next key of an object; its text starts after the opening quote. -/
def nextKey (first : Bool) (s : List Char) : Except Failure Next :=
  match skipSpace s with
  | [] => .error .incomplete
  | c :: rest =>
      if c = '}' then .ok (.done rest)
      else if first then
        if c = '\"' then .ok (.entry rest) else .error .malformed
      else if c = ',' then
        match skipSpace rest with
        | [] => .error .incomplete
        | c :: rest => if c = '\"' then .ok (.entry rest) else .error .malformed
      else .error .malformed

/-- Reads the elements of a sequence; every element takes a character. -/
def readElements {α : Type} (element : Reader α) : Nat → Bool → Reader (List α)
  | 0, _, _ => .error .incomplete
  | steps + 1, first, s => do
      match ← nextElement first s with
      | .done rest => .ok ([], rest)
      | .entry rest =>
          let (a, rest) ← element rest
          let (more, rest) ← readElements element steps false rest
          .ok (a :: more, rest)

/-- Reads a sequence. -/
def sequence {α : Type} (element : Reader α) : Reader (List α) := fun s =>
  match skipSpace s with
  | [] => .error .incomplete
  | c :: rest =>
      if c = '[' then readElements element (rest.length + 1) true rest
      else .error (wrongType "a sequence" c rest)

/-- Reads the members of an object whose keys are free; every member takes a
character. -/
def readEntries {α : Type} (value : Reader α) : Nat → Bool → Reader (List (String × α))
  | 0, _, _ => .error .incomplete
  | steps + 1, first, s => do
      match ← nextKey first s with
      | .done rest => .ok ([], rest)
      | .entry rest =>
          let (key, rest) ← readString rest
          let (a, rest) ← value (← readColon rest)
          let (more, rest) ← readEntries value steps false rest
          .ok ((key, a) :: more, rest)

/-- The entries in the order of their keys; of several with one key the last. -/
def sortEntries {α : Type} (entries : List (String × α)) : List (String × α) :=
  entries.foldl (fun sorted entry => insert sorted entry) []
where
  /-- Puts an entry in its place, instead of one with its key. -/
  insert : List (String × α) → String × α → List (String × α)
    | [], entry => [entry]
    | head :: rest, entry =>
        if entry.1 < head.1 then entry :: head :: rest
        else if entry.1 = head.1 then entry :: rest
        else head :: insert rest entry

/-- Reads an object whose keys are free, as a map in the order of the keys. -/
def dictionary {α : Type} (value : Reader α) : Reader (List (String × α)) := fun s =>
  match skipSpace s with
  | [] => .error .incomplete
  | c :: rest =>
      if c = '{' then Reader.map sortEntries (readEntries value (rest.length + 1) true) rest
      else .error (wrongType "a map" c rest)

/-! ## Any value -/

/-- Reads a value of any type in which at most `depth` arrays and objects are open
at a time. -/
def anyValue : Nat → Reader Json
  | 0 => fun s =>
      match skipSpace s with
      | [] => .error .incomplete
      | c :: rest => if c = '[' ∨ c = '{' then .error .malformed else scalar c rest
  | depth + 1 => fun s =>
      match skipSpace s with
      | [] => .error .incomplete
      | c :: rest =>
          if c = '[' then (sequence (anyValue depth)).map .array (c :: rest)
          else if c = '{' then (dictionary (anyValue depth)).map .object (c :: rest)
          else scalar c rest
where
  /-- Reads a value that is neither an array nor an object and begins with `c`. -/
  scalar (c : Char) (rest : List Char) : Except Failure (Json × List Char) :=
    if c = 'n' then (readWord ['u', 'l', 'l'] rest).map fun rest => (.null, rest)
    else if c = 't' then (readWord ['r', 'u', 'e'] rest).map fun rest => (.bool true, rest)
    else if c = 'f' then (readWord ['a', 'l', 's', 'e'] rest).map fun rest => (.bool false, rest)
    else if c = '\"' then Reader.map Json.string readString rest
    else if c = '-' then Reader.map ofNumber (readNumber true) rest
    else if c.isDigit then Reader.map ofNumber (readNumber false) (c :: rest)
    else .error .malformed
  /-- A number as a value. -/
  ofNumber : Number → Json
    | .int n => .int n
    | .real negative x => .real negative x

end ClusterWatch.Json
