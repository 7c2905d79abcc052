import SearchGateway.Schema.Basic

/-!
# Index fields of CloudSearch

The definitions of the fields of an index, one for each leaf of its schema.  A definition
names the field and its type, and it carries those options that the schema switches on or
off.  Structured fields have no definition of their own.
-/
namespace SearchGateway.CloudSearch

/-- The name of a type of fields, and the key under which its options stand. -/
def fieldTypeNames? : FieldKind → Option (String × String)
  | .integer => some ("int", "IntOptions")
  | .double => some ("double", "DoubleOptions")
  | .string | .boolean => some ("literal", "LiteralOptions")
  | .stringArray => some ("literal-array", "LiteralArrayOptions")
  | .text => some ("text", "TextOptions")
  | .textArray => some ("text-array", "TextArrayOptions")
  | .date => some ("date", "DateOptions")
  | .dateArray => some ("date-array", "DateArrayOptions")
  | .struct => none

/-- The hints of a schema that are options of a field, and their names there. -/
def optionNames : List (String × String) :=
  [("sortable", "SortEnabled"), ("searchable", "SearchEnabled"),
    ("returnable", "ReturnEnabled"), ("facetable", "FacetEnabled"),
    ("highlightable", "HighlightEnabled")]

/-- The options of a field. -/
def fieldOptions (type : FieldType) : List (String × Json) :=
  optionNames.filterMap fun (hint, option) =>
    (type.flag? hint).map fun enabled => (option, Json.bool enabled)

/-- The definition of a field. -/
def fieldDefinition? (name : String) (type : FieldType) : Option Json :=
  (fieldTypeNames? type.kind).map fun (typeName, optionsKey) =>
    let options := fieldOptions type
    .ofFields <|
      [("IndexFieldName", Json.str name), ("IndexFieldType", Json.str typeName)] ++
        (if options.isEmpty then [] else [(optionsKey, Json.ofFields options)])

/-- The definitions of the fields of a schema. -/
def fieldDefinitions (schema : Schema) : List Json :=
  schema.leaves.filterMap fun (name, type) => fieldDefinition? name type

end SearchGateway.CloudSearch
