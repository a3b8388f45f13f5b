import ClusterWatch.Kubernetes.ObjectMeta
import ClusterWatch.Text.Base64
import ClusterWatch.Text.Utf8

/-!
# Secrets

A Secret holds byte sequences under keys, which the API writes in base64.
-/

namespace ClusterWatch.Kubernetes

open Json (Fields)

/-- A Secret. -/
structure Secret where
  metadata : ObjectMeta
  data : Option (List (String × List UInt8))

namespace Secret

/-- The word that a member must have. -/
def constant (word : String) : Json.Reader Unit :=
  Json.text.check fun s => if s = word then .ok () else .error (.wrongValue (.string s) word)

/-- Reads a byte sequence in base64; `null` stands for no bytes. -/
def bytes : Json.Reader (List UInt8) :=
  ((Json.optional (Json.textAs "byte string")).check fun
    | none => .ok []
    | some s =>
        match Text.Base64.decode? s.toList with
        | some bytes => .ok bytes
        | none => .error .base64)

/-- A member that counts as absent when it is `null`. -/
private def member {β γ : Type} (key : String) (value : Json.Reader β) (others : Fields γ) :
    Fields (Option β × γ) :=
  .cons key (Json.optional value) (.default none) others

/-- Reads a Secret. -/
def reader : Json.Reader Secret :=
  (Json.readRecord (Json.apiRecord "Secret") <|
    .cons "apiVersion" (constant "v1") (.default ()) <|
    .cons "kind" (constant "Secret") (.default ()) <|
    member "data" (Json.dictionary bytes) <|
    member "immutable" Json.boolean <|
    member "metadata" ObjectMeta.reader <|
    member "stringData" (Json.dictionary Json.text) <|
    member "type" Json.text .nil).map
    fun (_, _, data, _, metadata, _, _, _) => { metadata := metadata.getD {}, data }

/-- The name of a Secret, empty if it has none. -/
def name (s : Secret) : String :=
  s.metadata.name.getD ""

/-- Why a Secret has no text under a key. -/
inductive Flaw where
  | missing (key : String)
  | notText (key : String)
  deriving DecidableEq

/-- The wording of a flaw. -/
def Flaw.message : Flaw → String
  | .missing key => "missing key " ++ key
  | .notText key => "key " ++ key ++ " is not valid UTF-8"

/-- The text under a key. -/
def value? (s : Secret) (key : String) : Except Flaw String :=
  match s.data.bind fun data => data.lookup key with
  | none => .error (.missing key)
  | some bytes =>
      match Text.Utf8.decode? bytes with
      | none => .error (.notText key)
      | some text => .ok text

end Secret

end ClusterWatch.Kubernetes
