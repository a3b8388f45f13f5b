import ClusterWatch.Text.Split

/-!
# White space

The characters with the Unicode property `White_Space`, and the text that is
left once they are removed from both ends.
-/

namespace ClusterWatch.Text

/-- The character has the Unicode property `White_Space`. -/
def isBlank (c : Char) : Bool :=
  let n := c.toNat
  (9 ≤ n && n ≤ 13) || n == 0x20 || n == 0x85 || n == 0xA0 || n == 0x1680 ||
    (0x2000 ≤ n && n ≤ 0x200A) || n == 0x2028 || n == 0x2029 || n == 0x202F ||
    n == 0x205F || n == 0x3000

/-- The text without the white space it begins with. -/
def trimLeft (s : List Char) : List Char :=
  s.dropWhile isBlank

/-- The text without the white space at its two ends. -/
def trim (s : List Char) : List Char :=
  dropTrailing isBlank (trimLeft s)

@[simp]
theorem trim_nil : trim [] = [] :=
  rfl

/-- Trimming starts at the first character that is not white space. -/
theorem trimLeft_cons (c : Char) (s : List Char) :
    trimLeft (c :: s) = if isBlank c then trimLeft s else c :: s := by
  simp [trimLeft, List.dropWhile_cons]

end ClusterWatch.Text
