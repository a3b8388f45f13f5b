/-!
# UTF-8

A byte sequence is cut into pieces: the characters it encodes and, where no
character can be completed, the longest run of bytes that began one.  Strict
decoding refuses a sequence with such a run; lenient decoding puts the
replacement character in the place of each.
-/

namespace ClusterWatch.Text.Utf8

/-- Reads `missing` continuation bytes, of which the first lies between `low` and
`high`.  The result is the completed character, or nothing, and the bytes left. -/
def finish : Nat → UInt8 → UInt8 → Nat → List UInt8 → Option Char × List UInt8
  | 0, _, _, value, rest => (some (Char.ofNat value), rest)
  | _ + 1, _, _, _, [] => (none, [])
  | missing + 1, low, high, value, byte :: rest =>
      if low ≤ byte ∧ byte ≤ high then
        finish missing 0x80 0xBF (value * 64 + byte.toNat % 64) rest
      else
        (none, byte :: rest)

/-- The piece that begins with the byte `byte`, and the bytes after it.  The
bounds on the second byte exclude overlong forms, surrogates and code points
above U+10FFFF. -/
def piece (byte : UInt8) (rest : List UInt8) : Option Char × List UInt8 :=
  if byte < 0x80 then (some (Char.ofNat byte.toNat), rest)
  else if byte < 0xC2 then (none, rest)
  else if byte < 0xE0 then finish 1 0x80 0xBF (byte.toNat % 32) rest
  else if byte = 0xE0 then finish 2 0xA0 0xBF 0 rest
  else if byte = 0xED then finish 2 0x80 0x9F 13 rest
  else if byte < 0xF0 then finish 2 0x80 0xBF (byte.toNat % 16) rest
  else if byte = 0xF0 then finish 3 0x90 0xBF 0 rest
  else if byte < 0xF4 then finish 3 0x80 0xBF (byte.toNat % 8) rest
  else if byte = 0xF4 then finish 3 0x80 0x8F 4 rest
  else (none, rest)

theorem length_finish_le (missing : Nat) (low high : UInt8) (value : Nat) (bytes : List UInt8) :
    (finish missing low high value bytes).2.length ≤ bytes.length := by
  induction missing generalizing low high value bytes with
  | zero => simp [finish]
  | succ missing inductionHypothesis =>
      cases bytes with
      | nil => simp [finish]
      | cons byte rest =>
          simp only [finish]
          split
          · exact Nat.le_succ_of_le (inductionHypothesis ..)
          · simp

/-- A piece takes at least the byte that it begins with. -/
theorem length_piece_le (byte : UInt8) (rest : List UInt8) :
    (piece byte rest).2.length ≤ rest.length := by
  unfold piece
  repeat' split
  all_goals first | exact length_finish_le .. | exact Nat.le_refl _

/-- The pieces of a byte sequence; a piece that is no character is `none`. -/
def pieces : List UInt8 → List (Option Char)
  | [] => []
  | byte :: rest => (piece byte rest).1 :: pieces (piece byte rest).2
termination_by bytes => bytes.length
decreasing_by exact Nat.lt_succ_of_le (length_piece_le byte rest)

/-- The text that the bytes encode, if every piece is a character. -/
def decode? (bytes : List UInt8) : Option String :=
  ((pieces bytes).mapM id).map String.ofList

/-- The text that the bytes encode, with U+FFFD for each piece that is no
character. -/
def decodeLenient (bytes : List UInt8) : String :=
  String.ofList ((pieces bytes).map fun c => c.getD '\uFFFD')

/-- The bytes of a text. -/
def encode (s : String) : List UInt8 :=
  s.toList.flatMap String.utf8EncodeChar

end ClusterWatch.Text.Utf8
