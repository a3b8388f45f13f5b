import ClusterWatch.Text.Plain

/-!
# Quoted text

Text between double quotes in which every character is visible: a quote and a
backslash are written after a backslash, four controls have a letter of their
own, and every other hidden character is written as its code point in
hexadecimal.  Each written form begins differently, so quoted text can be read
back.
-/

namespace ClusterWatch.Text

/-- The code point of a character, written `\u`, an opening brace, lower-case
hexadecimal digits without leading zeros, and a closing brace. -/
def codePointEscape (c : Char) : List Char :=
  ['\\', 'u', '\x7b'] ++ Nat.toDigits 16 c.toNat ++ ['\x7d']

/-- How one character is written between quotes. -/
def escapeChar (c : Char) : List Char :=
  if c = '\x00' then ['\\', '0']
  else if c = '\t' then ['\\', 't']
  else if c = '\r' then ['\\', 'r']
  else if c = '\n' then ['\\', 'n']
  else if c = '\"' then ['\\', '\"']
  else if c = '\\' then ['\\', '\\']
  else if isPlain c then [c]
  else codePointEscape c

/-- The characters of a quoted text. -/
def quoteChars (s : List Char) : List Char :=
  '\"' :: (s.flatMap escapeChar ++ ['\"'])

/-- The text between double quotes, with hidden characters spelled out. -/
def quote (s : String) : String :=
  String.ofList (quoteChars s.toList)

@[simp]
theorem toList_quote (s : String) : (quote s).toList = quoteChars s.toList := by
  simp [quote]

end ClusterWatch.Text
