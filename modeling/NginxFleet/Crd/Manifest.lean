/-
Module: NginxFleet.Crd.Manifest
Layer: Crd
Purpose: The definition by which a server learns of the Nginx resource: its names, and the schema of
  what users may declare and what the operator records.
Main exports: crdManifest, crdManifestText
-/
import NginxFleet.Json.Yaml
import NginxFleet.Nginx.Basic

namespace NginxFleet

/-- The schema of a type, with its other rules. -/
def schemaOf (type : String) (rules : List (String × Json)) : Json :=
  .obj (("type", .str type) :: rules)

/-- The rule for the members of an object. -/
def properties (members : List (String × Json)) : String × Json :=
  ("properties", .obj members)

/-- The rule that members must be there. -/
def requiredRule (names : List String) : String × Json :=
  ("required", .arr (names.map .str))

/-- The rule that a value may be null. -/
def nullable : String × Json := ("nullable", .bool true)

/-- What a schema is for. -/
def description (text : String) : String × Json := ("description", .str text)

/-- The schema of a reference to a config map. -/
def configSchema : Json :=
  schemaOf "object" [
    description "ConfigMap mounted as the nginx configuration directory", nullable,
    properties [("name", schemaOf "string" [])], requiredRule ["name"]]

/-- The schema of what users ask for. -/
def specSchema : Json :=
  schemaOf "object" [
    properties [
      ("replicas", schemaOf "integer" [
        description "Number of nginx Pods to run, defaults to 1", ("format", .str "int32"),
        nullable]),
      ("image", schemaOf "string" [
        description ("Container image, defaults to " ++ Nginx.defaultImage), nullable]),
      ("config", configSchema)]]

/-- The schema of a recorded pod. -/
def podEntrySchema : Json :=
  schemaOf "object" [
    description "A live Pod backing an Nginx instance. Ordered by name first.",
    properties [
      ("name", schemaOf "string" []),
      ("podIP", schemaOf "string" [("default", .str "")])],
    requiredRule ["name"]]

/-- The schema of what is recorded. -/
def statusSchema : Json :=
  schemaOf "object" [
    nullable,
    properties [("pods", schemaOf "array" [("default", .arr []), ("items", podEntrySchema)])]]

/-- The schema of the resource. -/
def nginxSchema : Json :=
  schemaOf "object" [
    ("title", .str Nginx.kind),
    description "Auto-generated derived type for NginxSpec via `CustomResource`",
    properties [("spec", specSchema), ("status", statusSchema)], requiredRule ["spec"]]

/-- The names of the resource. -/
def resourceNames : Json :=
  .obj [
    ("kind", .str Nginx.kind), ("plural", .str Nginx.plural),
    ("singular", .str Nginx.kind.toLower), ("shortNames", .arr []), ("categories", .arr [])]

/-- The only version of the resource. -/
def resourceVersion : Json :=
  .obj [
    ("name", .str Nginx.version), ("served", .bool true), ("storage", .bool true),
    ("schema", .obj [("openAPIV3Schema", nginxSchema)]),
    ("subresources", .obj [("status", .obj [])]), ("additionalPrinterColumns", .arr [])]

/-- The definition of the resource. -/
def crdManifest : Json :=
  .obj [
    ("apiVersion", .str "apiextensions.k8s.io/v1"),
    ("kind", .str "CustomResourceDefinition"),
    ("metadata", .obj [("name", .str (Nginx.plural ++ "." ++ Nginx.group))]),
    ("spec", .obj [
      ("group", .str Nginx.group), ("names", resourceNames), ("scope", .str "Namespaced"),
      ("versions", .arr [resourceVersion])])]

/-- The text of the definition, with the keys of each object in ascending order. -/
def crdManifestText : String :=
  crdManifest.canonical.yamlText

end NginxFleet
