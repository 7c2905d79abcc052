import SearchGateway.Schema.Basic

/-!
# Mappings of Elasticsearch

The mapping of an index gives the type of each leaf of its schema.  Structured fields have
no place in it.
-/
namespace SearchGateway.Elasticsearch

/-- The type of a field; a text that is not analyzed is a keyword. -/
def mappingType? (type : FieldType) : Option String :=
  match type.kind with
  | .integer => some "integer"
  | .double => some "double"
  | .string | .stringArray => some "keyword"
  | .text | .textArray =>
    if type.flag? "analyzed" = some false then some "keyword" else some "text"
  | .date | .dateArray => some "date"
  | .boolean => some "boolean"
  | .struct => none

/-- The types of the fields of a schema; of two leaves of one name the later one counts. -/
def properties (schema : Schema) : JsonObject :=
  .ofList <| schema.leaves.filterMap fun (name, type) =>
    (mappingType? type).map fun typeName => (name, Json.ofFields [("type", .str typeName)])

/-- The mapping of a schema. -/
def mapping (schema : Schema) : Json := .ofFields [("properties", .obj (properties schema))]

end SearchGateway.Elasticsearch
