import ClusterWatch.Json.Fields

/-!
# Cluster license

The license of an Elasticsearch cluster.  A cluster answers with an envelope
around it.
-/

namespace ClusterWatch

/-- The license applied to a cluster. -/
structure License where
  uid : String
  type : String
  status : String
  /-- When the license expires, in milliseconds since 1970, if it does. -/
  expiryDateInMillis : Option Int64
  deriving DecidableEq

namespace License

open Json (Fields)

/-- The values of a license, in declaration order. -/
abbrev Row : Type :=
  String × String × String × Option Int64 × Unit

/-- The fields of a license. -/
def fields : Fields Row :=
  .cons "uid" Json.text .required <|
  .cons "type" Json.text .required <|
  .cons "status" Json.text .required <|
  .cons "expiry_date_in_millis" (Json.optional Json.int64) (.default none) .nil

/-- The license of a row of values. -/
def ofRow : Row → License
  | (uid, type, status, expiryDateInMillis, _) => { uid, type, status, expiryDateInMillis }

/-- Reads a license. -/
def reader : Json.Reader License :=
  (Json.readRecord (Json.plainRecord "License") fields).map ofRow

/-- The fields of the envelope. -/
def envelopeFields : Fields (License × Unit) :=
  .cons "license" reader .required .nil

/-- Reads the envelope around a license. -/
def envelopeReader : Json.Reader License :=
  (Json.readRecord (Json.plainRecord "LicenseResponse") envelopeFields).map Prod.fst

/-- The license as a JSON value. -/
def toJson (l : License) : Json :=
  Json.ofMembers
    [("uid", some (.string l.uid)),
      ("type", some (.string l.type)),
      ("status", some (.string l.status)),
      ("expiry_date_in_millis", l.expiryDateInMillis.map fun n => .int n.toInt)]

end License

end ClusterWatch
