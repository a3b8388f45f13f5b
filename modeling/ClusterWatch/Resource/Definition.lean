import ClusterWatch.Resource.Cluster

/-!
# Definition of the cluster resource

The custom resource definition that makes a Kubernetes API serve cluster
resources: the names of the resource, the columns of its listings and the schema
of its two parts.
-/

namespace ClusterWatch.Definition

/-- The schema of a text. -/
def textSchema : List (String × Json) :=
  [("type", .string "string")]

/-- The schema of an object with the given properties, some of them required. -/
def objectSchema (properties : List (String × Json)) (required : List String) :
    List (String × Json) :=
  [("properties", .object properties)] ++
    (if required = [] then [] else [("required", .array (required.map .string))]) ++
    [("type", .string "object")]

/-- A schema with members that come before its own. -/
def schemaWith (members : List (String × Json)) (schema : List (String × Json)) : Json :=
  .object (members ++ schema)

/-- A schema with a description. -/
def described (text : String) (schema : List (String × Json)) : Json :=
  schemaWith [("description", .string text)] schema

/-- A schema with a description, of a value that may be absent. -/
def optional (text : String) (schema : List (String × Json)) : Json :=
  schemaWith [("description", .string text), ("nullable", .bool true)] schema

/-- The schema of a key of a Secret that has a default. -/
def keySchema (key text : String) : Json :=
  schemaWith [("default", .string key), ("description", .string text)] textSchema

/-- The schema of the name of a Secret. -/
def secretNameSchema : Json :=
  described "Name of the Secret" textSchema

/-- The schema of what a resource asks for. -/
def specSchema : Json :=
  .object <| objectSchema
    [("caSecretRef",
        optional "Secret holding the CA certificate the cluster's HTTP certificate is signed by" <|
          objectSchema
            [("key", keySchema "ca.crt" "Key of the certificate in the Secret data"),
              ("name", secretNameSchema)]
            ["name"]),
      ("credentialsSecretRef",
        optional "Secret holding the credentials used to query the cluster" <|
          objectSchema
            [("name", secretNameSchema),
              ("passwordKey", keySchema "password" "Key of the password in the Secret data"),
              ("usernameKey", keySchema "username" "Key of the user name in the Secret data")]
            ["name"]),
      ("endpoint",
        optional
          ("HTTP(S) endpoint of the cluster.\nDefaults to the cluster's HTTP service: " ++
            "\x60https://<name>-es-http.<namespace>.svc:9200\x60")
          textSchema)]
    []

/-- The phases in the order in which the schema lists them. -/
def listedPhases : List ClusterPhase :=
  [.green, .yellow, .red, .unknown]

/-- The schema of what is reported of a resource. -/
def statusSchema : Json :=
  schemaWith [("nullable", .bool true)] <| objectSchema
    [("clusterName", optional "Cluster name reported by Elasticsearch" textSchema),
      ("lastObserved",
        .object
          [("description", .string "Timestamp of the reconciliation that produced this status"),
            ("format", .string "date-time"),
            ("nullable", .bool true),
            ("type", .string "string")]),
      ("licenseType", optional "Type of the license applied to the cluster" textSchema),
      ("numberOfNodes",
        .object
          [("description", .string "Number of nodes reported by the last health check"),
            ("format", .string "uint32"),
            ("minimum", .real false Decimal.Binary64.zero),
            ("nullable", .bool true),
            ("type", .string "integer")]),
      ("phase",
        .object
          [("description", .string "Last observed health"),
            ("enum", .array (listedPhases.map fun phase => .string phase.name)),
            ("type", .string "string")])]
    ["phase"]

/-- The schema of a resource. -/
def clusterSchema : Json :=
  .object
    [("description",
        .string
          "Auto-generated derived type for ElasticsearchClusterSpec via \x60CustomResource\x60"),
      ("properties", .object [("spec", specSchema), ("status", statusSchema)]),
      ("required", .array [.string "spec"]),
      ("title", .string Cluster.kind),
      ("type", .string "object")]

/-- A column of listings: where its value stands, its heading and its type. -/
def column (jsonPath name type : String) : Json :=
  .object [("jsonPath", .string jsonPath), ("name", .string name), ("type", .string type)]

/-- The definition of the one version. -/
def versionDefinition : Json :=
  .object
    [("additionalPrinterColumns",
        .array
          [column ".status.phase" "Health" "string",
            column ".status.numberOfNodes" "Nodes" "integer"]),
      ("name", .string Cluster.version),
      ("schema", .object [("openAPIV3Schema", clusterSchema)]),
      ("selectableFields", .array []),
      ("served", .bool true),
      ("storage", .bool true),
      ("subresources", .object [("status", .object [])])]

/-- The names under which the resource is known. -/
def names : Json :=
  .object
    [("categories", .array []),
      ("kind", .string Cluster.kind),
      ("plural", .string Cluster.plural),
      ("shortNames", .array [.string "esc"]),
      ("singular", .string "elasticsearchcluster")]

/-- The custom resource definition. -/
def resource : Json :=
  .object
    [("apiVersion", .string "apiextensions.k8s.io/v1"),
      ("kind", .string "CustomResourceDefinition"),
      ("metadata", .object [("name", .string (Cluster.plural ++ "." ++ Cluster.group))]),
      ("spec",
        .object
          [("group", .string Cluster.group),
            ("names", names),
            ("scope", .string "Namespaced"),
            ("versions", .array [versionDefinition])])]

end ClusterWatch.Definition
