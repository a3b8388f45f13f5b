import ClusterWatch.Json.Fields

/-!
# References to Secrets

A cluster resource names the Secrets that hold its credentials and the
certificate of its authority, and the keys under which they stand.  The Secrets
are looked up in the namespace of the resource.
-/

namespace ClusterWatch

open Json (Fields)

/-- A reference to a Secret with a user name and a password. -/
structure CredentialsSecretReference where
  name : String
  usernameKey : String
  passwordKey : String
  deriving DecidableEq

namespace CredentialsSecretReference

/-- The reference to a Secret that uses the default keys. -/
def ofName (name : String) : CredentialsSecretReference :=
  ⟨name, "username", "password"⟩

/-- The fields of a reference to credentials. -/
def fields : Fields (String × String × String × Unit) :=
  .cons "name" Json.text .required <|
  .cons "usernameKey" Json.text (.default "username") <|
  .cons "passwordKey" Json.text (.default "password") .nil

/-- Reads a reference to credentials. -/
def reader : Json.Reader CredentialsSecretReference :=
  (Json.readRecord (Json.plainRecord "CredentialsSecretReference") fields).map
    fun (name, usernameKey, passwordKey, _) => { name, usernameKey, passwordKey }

/-- The reference as a JSON value. -/
def toJson (r : CredentialsSecretReference) : Json :=
  .object
    [("name", .string r.name),
      ("usernameKey", .string r.usernameKey),
      ("passwordKey", .string r.passwordKey)]

end CredentialsSecretReference

/-- A reference to a Secret with the certificate of an authority. -/
structure CaSecretReference where
  name : String
  key : String
  deriving DecidableEq

namespace CaSecretReference

/-- The reference to a Secret that uses the default key. -/
def ofName (name : String) : CaSecretReference :=
  ⟨name, "ca.crt"⟩

/-- The fields of a reference to a certificate. -/
def fields : Fields (String × String × Unit) :=
  .cons "name" Json.text .required <|
  .cons "key" Json.text (.default "ca.crt") .nil

/-- Reads a reference to a certificate. -/
def reader : Json.Reader CaSecretReference :=
  (Json.readRecord (Json.plainRecord "CaSecretReference") fields).map
    fun (name, key, _) => { name, key }

/-- The reference as a JSON value. -/
def toJson (r : CaSecretReference) : Json :=
  .object [("name", .string r.name), ("key", .string r.key)]

end CaSecretReference

end ClusterWatch
