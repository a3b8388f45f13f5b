import ClusterWatch.Json.Basic
import ClusterWatch.Text.Digits
import ClusterWatch.Text.Quoted
import ClusterWatch.Time.Rfc3339

/-!
# Why a JSON text is not decoded

A text can end too early, it can be no JSON, or it can be JSON that does not have
the expected form.  Only the last kind has a message, which says what was found
and what was expected.
-/

namespace ClusterWatch.Json

open ClusterWatch.Decimal

/-- A value as it is named in messages. -/
inductive Found where
  | null
  | bool (value : Bool)
  | int (value : Int)
  | real (negative : Bool) (magnitude : Binary64)
  | string (value : String)
  | sequence
  | map
  deriving DecidableEq, Repr

/-- The name of a found value. -/
def Found.describe : Found → String
  | .null => "null"
  | .bool true => "boolean \x60true\x60"
  | .bool false => "boolean \x60false\x60"
  | .int n => "integer \x60" ++ String.ofList (intChars n) ++ "\x60"
  | .real negative x => "floating point \x60" ++ String.ofList (realChars negative x) ++ "\x60"
  | .string s => "string " ++ Text.quote s
  | .sequence => "sequence"
  | .map => "map"

/-- How a JSON value misses the expected form. -/
inductive Mismatch where
  /-- A value of another type. -/
  | wrongType (found : Found) (expected : String)
  /-- A value of the right type that is not allowed. -/
  | wrongValue (found : Found) (expected : String)
  /-- A sequence that ends before a required element. -/
  | wrongLength (length : Nat) (expected : String)
  /-- A required key that does not occur. -/
  | missingField (key : String)
  /-- A key that occurs twice. -/
  | duplicateField (key : String)
  /-- A name that is not one of those known. -/
  | unknownVariant (name : String) (known : List String)
  /-- A text that is no timestamp. -/
  | timestamp (failure : Rfc3339.Failure)
  /-- A text that is not base64. -/
  | base64
  deriving DecidableEq

/-- A name between grave accents. -/
private def named (name : String) : String :=
  "\x60" ++ name ++ "\x60"

/-- The wording of a mismatch. -/
def Mismatch.message : Mismatch → String
  | .wrongType found expected =>
      "invalid type: " ++ found.describe ++ ", expected " ++ expected
  | .wrongValue found expected =>
      "invalid value: " ++ found.describe ++ ", expected " ++ expected
  | .wrongLength length expected =>
      "invalid length " ++ Text.decimal length ++ ", expected " ++ expected
  | .missingField key => "missing field " ++ named key
  | .duplicateField key => "duplicate field " ++ named key
  | .unknownVariant name known =>
      "unknown variant " ++ named name ++ ", expected one of " ++
        ", ".intercalate (known.map named)
  | .timestamp failure => failure.message
  | .base64 => "invalid base64"

/-- Why a text is not decoded. -/
inductive Failure where
  /-- The text ends before the value does. -/
  | incomplete
  /-- The text is no JSON. -/
  | malformed
  /-- The value does not have the expected form. -/
  | mismatch (cause : Mismatch)
  deriving DecidableEq

end ClusterWatch.Json
