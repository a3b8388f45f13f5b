import ClusterWatch.Text.Digits
import ClusterWatch.Text.Quoted

/-!
# Connections to clusters

What a client reaches its cluster with: the endpoint, the user and the
certificates it trusts.  Two clients with the same connection can stand for each
other.  A connection can be shown without giving away the password or the
certificates.
-/

namespace ClusterWatch.Elasticsearch

open ClusterWatch.Text (quote)

/-- A user name and a password. -/
structure Credentials where
  name : String
  password : String
  deriving DecidableEq

/-- The parameters of a connection. -/
structure Connection where
  endpoint : String
  user : Option Credentials
  /-- Certificates of authorities, in PEM. -/
  ca : List String
  deriving DecidableEq

namespace Connection

/-- The user of a connection, without the password. -/
def describeUser : Option Credentials → String
  | none => "None"
  | some user =>
      "Some(BasicAuth \x7b name: " ++ quote user.name ++ ", password: " ++ quote "<redacted>" ++
        " \x7d)"

/-- The connection as it is shown: with the number of certificates only. -/
def describe (c : Connection) : String :=
  "EsClient \x7b endpoint: " ++ quote c.endpoint ++ ", user: " ++ describeUser c.user ++
    ", ca_certs: " ++ Text.decimal c.ca.length ++ ", .. \x7d"

end Connection

/-- Clients that reach a cluster over a connection. -/
class HasConnection (κ : Type) where
  /-- The connection of a client. -/
  connection : κ → Connection

export HasConnection (connection)

variable {κ : Type} [HasConnection κ]

/-- Two clients have the same connection, so one can take the place of the other. -/
def Interchangeable (a b : κ) : Prop :=
  connection a = connection b

instance (a b : κ) : Decidable (Interchangeable a b) :=
  inferInstanceAs (Decidable (connection a = connection b))

end ClusterWatch.Elasticsearch
