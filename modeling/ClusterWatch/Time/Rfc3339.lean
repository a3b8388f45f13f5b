import ClusterWatch.Text.Blank
import ClusterWatch.Text.Digits
import ClusterWatch.Time.Calendar

/-!
# RFC 3339 timestamps

A timestamp is written in UTC with the letter `Z` and with the shortest of 0, 3,
6 or 9 fractional digits that is exact.  Reading is more generous: a date and a
time separated by `T`, `t` or a space, fields of one or two digits, blanks around
the separators, any number of fractional digits, and an offset or `Z`.  The first
problem from the left is reported, and the calendar is consulted last.
-/

namespace ClusterWatch.Rfc3339

open ClusterWatch.Text

/-- Why a text is no timestamp. -/
inductive Failure where
  /-- The text ends within the timestamp. -/
  | tooShort
  /-- A character that cannot stand in its place. -/
  | invalid
  /-- A field, a date or an offset that does not exist. -/
  | outOfRange
  /-- Text after the timestamp. -/
  | tooLong
  /-- The moment in UTC lies outside the years that can be represented. -/
  | impossible
  deriving DecidableEq, Repr

/-- The wording of a failure. -/
def Failure.message : Failure → String
  | .tooShort => "premature end of input"
  | .invalid => "input contains invalid characters"
  | .outOfRange => "input is out of range"
  | .tooLong => "trailing input"
  | .impossible => "no possible date and time matching input"

/-! ## Writing -/

/-- The decimal digits of `n`, with zeros in front up to `width` digits. -/
def padded (width n : Nat) : List Char :=
  let digits := Nat.toDigits 10 n
  List.replicate (width - digits.length) '0' ++ digits

/-- A year of four digits; years outside `0000` to `9999` have a sign. -/
def yearChars (year : Int) : List Char :=
  if 0 ≤ year ∧ year ≤ 9999 then padded 4 year.toNat
  else (if year < 0 then '-' else '+') :: padded 4 year.natAbs

/-- The fraction of a second, if there is one, by thousandths, millionths or
nanoseconds. -/
def fractionChars (nanos : Nat) : List Char :=
  if nanos = 0 then []
  else if nanos % 1000000 = 0 then '.' :: padded 3 (nanos / 1000000)
  else if nanos % 1000 = 0 then '.' :: padded 6 (nanos / 1000)
  else '.' :: padded 9 nanos

/-- The timestamp up to its seconds. -/
def wholeChars (t : Timestamp) : List Char :=
  yearChars t.date.year ++ ['-'] ++ padded 2 t.date.month ++ ['-'] ++ padded 2 t.date.day ++
    ['T'] ++ padded 2 t.time.hour ++ [':'] ++ padded 2 t.time.minute ++ [':'] ++
    padded 2 t.time.second

/-- The written form of a timestamp. -/
def write (t : Timestamp) : String :=
  String.ofList (wholeChars t ++ fractionChars t.time.nanos ++ ['Z'])

/-- The written form of a timestamp without its fraction of a second. -/
def writeSeconds (t : Timestamp) : String :=
  String.ofList (wholeChars t ++ ['Z'])

/-! ## Reading -/

/-- Reads the decimal digits at the start of the text, at least one and at most
`width` of them. -/
def readNumber (width : Nat) (s : List Char) : Except Failure (Nat × List Char) :=
  match s with
  | [] => .error .tooShort
  | c :: _ =>
      if c.isDigit then
        let digits := (s.take width).takeWhile Char.isDigit
        .ok (ofDigits digits, s.drop digits.length)
      else .error .invalid

/-- Reads a year: four digits at most, or any number of them after a sign. -/
def readYear (s : List Char) : Except Failure (Int × List Char) := do
  let (year, rest) ←
    match trimLeft s with
    | '-' :: rest => (readNumber rest.length rest).map fun (n, rest) => (-(n : Int), rest)
    | '+' :: rest => (readNumber rest.length rest).map fun (n, rest) => ((n : Int), rest)
    | rest => (readNumber 4 rest).map fun (n, rest) => ((n : Int), rest)
  if -2147483648 ≤ year ∧ year ≤ 2147483647 then .ok (year, rest) else .error .outOfRange

/-- Reads a field of one or two digits, after blanks, that lies between `low` and
`high`. -/
def readField (low high : Nat) (s : List Char) : Except Failure (Nat × List Char) := do
  let (n, rest) ← readNumber 2 (trimLeft s)
  if low ≤ n ∧ n ≤ high then .ok (n, rest) else .error .outOfRange

/-- Reads one given character, after blanks. -/
def readMark (mark : Char) (s : List Char) : Except Failure (List Char) :=
  match trimLeft s with
  | [] => .error .tooShort
  | c :: rest => if c = mark then .ok rest else .error .invalid

/-- Reads the separator between date and time. -/
def readSeparator (s : List Char) : Except Failure (List Char) :=
  match s with
  | [] => .error .tooShort
  | c :: rest => if c = 'T' ∨ c = 't' ∨ c = ' ' then .ok rest else .error .invalid

/-- Reads a fraction of a second in nanoseconds.  Digits after the ninth do not
count. -/
def readFraction (s : List Char) : Except Failure (Nat × List Char) :=
  match s with
  | '.' :: rest => do
      let (n, after) ← readNumber 9 rest
      let count := rest.length - after.length
      .ok (n * Nat.pow 10 (9 - count), after.dropWhile Char.isDigit)
  | rest => .ok (0, rest)

/-- Reads two digits.  One character that takes several bytes stands for text
that is long enough but no number. -/
def readTwoDigits (s : List Char) : Except Failure (Nat × List Char) :=
  match s with
  | [] => .error .tooShort
  | [c] => if c.utf8Size < 2 then .error .tooShort else .error .invalid
  | c :: d :: rest =>
      if c.isDigit ∧ d.isDigit then .ok (ofDigits [c, d], rest) else .error .invalid

/-- Reads hours, any number of colons and blanks, and minutes, as minutes. -/
def readHoursMinutes (s : List Char) : Except Failure (Nat × List Char) := do
  let (hours, rest) ← readTwoDigits s
  let (minutes, rest) ← readTwoDigits (rest.dropWhile fun c => c = ':' || isBlank c)
  if minutes < 60 then .ok (hours * 60 + minutes, rest) else .error .outOfRange

/-- Reads the offset from UTC in minutes: `Z`, `UTC` in any case, or a sign with
hours and minutes. -/
def readOffset (s : List Char) : Except Failure (Int × List Char) :=
  match s with
  | [] => .error .tooShort
  | c :: rest =>
      if (s.take 3).map Char.toUpper = ['U', 'T', 'C'] then .ok (0, s.drop 3)
      else if c = 'Z' ∨ c = 'z' then .ok (0, rest)
      else if c = '+' then
        (readHoursMinutes rest).map fun (n, rest) => ((n : Int), rest)
      else if c = '-' ∨ c = '\u2212' then
        (readHoursMinutes rest).map fun (n, rest) => (-(n : Int), rest)
      else .error .invalid

/-- The years of moments that can be represented. -/
def isYearInRange (year : Int) : Bool :=
  -262143 ≤ year && year ≤ 262142

/-- The moment with the fields that were read. -/
def ofFields (year : Int) (month day hour minute second nanos : Nat) (offset : Int) :
    Except Failure Timestamp :=
  if h : hour < 24 ∧ minute < 60 ∧ second ≤ 60 ∧ nanos < 1000000000 then
    match Date.of? year month day with
    | none => .error .outOfRange
    | some date =>
        if isYearInRange year ∧ offset.natAbs < 1440 then
          let time : TimeOfDay := ⟨hour, minute, second, nanos, h.1, h.2.1, h.2.2.1, h.2.2.2⟩
          let t := Timestamp.ofLocal date time offset
          if isYearInRange t.date.year then .ok t else .error .impossible
        else .error .outOfRange
  else .error .outOfRange

/-- Reads a timestamp that takes up the whole text. -/
def readChars (s : List Char) : Except Failure Timestamp := do
  let (year, s) ← readYear s
  let s ← readMark '-' s
  let (month, s) ← readField 1 12 s
  let s ← readMark '-' s
  let (day, s) ← readField 1 31 s
  let s ← readSeparator s
  let (hour, s) ← readField 0 23 s
  let s ← readMark ':' s
  let (minute, s) ← readField 0 59 s
  let s ← readMark ':' s
  let (second, s) ← readField 0 60 s
  let (nanos, s) ← readFraction s
  let (offset, s) ← readOffset (trimLeft s)
  if trimLeft s = [] then ofFields year month day hour minute second nanos offset
  else .error .tooLong

/-- Reads a timestamp that takes up the whole text. -/
def read (s : String) : Except Failure Timestamp :=
  readChars s.toList

end ClusterWatch.Rfc3339
