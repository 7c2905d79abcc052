import SearchGateway.Error
import SearchGateway.Query.Basic

/-!
# Criteria of Elasticsearch

A criterion is compiled to a JSON object.  Literals keep their own form, except that a
literal compared with a date field becomes the timestamp in universal time.  Only free text
can be searched in any field.
-/
namespace SearchGateway.Elasticsearch

/-- The name of the query language in messages. -/
def target : String := Engine.elasticsearch.name

/-- An object with a single field. -/
def single (key : String) (value : Json) : Json := .obj ⟨[(key, value)]⟩

/-- The field of a criterion, which must not be the wildcard. -/
def concreteField (attr : Attribute) (part : PartKind) : Except SearchError String :=
  if attr.isWildcard then .error (.unsupportedAttribute target part attr.path)
  else .ok attr.flatName

/-- A literal as it is compared with an attribute. -/
def typedLiteral (schema : Schema) (attr : Attribute) (value : FieldValue) : FieldValue :=
  value.forKind (schema.fieldKind? attr.path)

/-- A literal in a criterion. -/
def literal (schema : Schema) (attr : Attribute) (value : FieldValue) : Json :=
  (typedLiteral schema attr value).toJson

/-- The text of a literal inside a pattern. -/
def patternTerm (schema : Schema) (attr : Attribute) (value : FieldValue) :
    Except SearchError String :=
  match (typedLiteral schema attr value).term? with
  | some term => .ok term
  | none => .error (.unsupportedPart target .value)

/-- The range of the values on one side of a literal. -/
def openRange (schema : Schema) (part : PartKind) (attr : Attribute) (value : FieldValue)
    (bound : String) : Except SearchError Json :=
  (concreteField attr part).map fun field =>
    single "range" (single field (single bound (literal schema attr value)))

/-- The form of a comparison with one literal. -/
def compileComparison (schema : Schema) (comparison : Comparison) (attr : Attribute)
    (value : FieldValue) : Except SearchError Json :=
  match comparison with
  | .freeText =>
    .ok <| single "query_string" <| .ofFields <|
      ("query", literal schema attr value) ::
        (if attr.isWildcard then [] else [("default_field", Json.str attr.flatName)])
  | .equal =>
    (concreteField attr comparison.kind).map fun field =>
      single "term" (single field (literal schema attr value))
  | .notEqual =>
    (concreteField attr comparison.kind).map fun field =>
      single "must_not" (single "term" (single field (literal schema attr value)))
  | .greater => openRange schema comparison.kind attr value "gt"
  | .greaterEqual => openRange schema comparison.kind attr value "gte"
  | .less => openRange schema comparison.kind attr value "lt"
  | .lessEqual => openRange schema comparison.kind attr value "lte"
  | .contains => do
    let field ← concreteField attr comparison.kind
    let term ← patternTerm schema attr value
    return single "wildcard" (single field (.str ("*" ++ term ++ "*")))
  | .starts => do
    let field ← concreteField attr comparison.kind
    let term ← patternTerm schema attr value
    return single "wildcard" (single field (.str (term ++ "*")))
  | .fuzzy =>
    (concreteField attr comparison.kind).map fun field =>
      single "fuzzy" (single field (literal schema attr value))

mutual

/-- The form of a criterion. -/
def compile (schema : Schema) : Criterion → Except SearchError Json
  | .compare comparison attr value => compileComparison schema comparison attr value
  | .between bounds attr low high =>
    (concreteField attr bounds.kind).map fun field =>
      single "range" <| single field <| .ofFields
        [(if bounds.lowIncluded then "gte" else "gt", literal schema attr low),
          (if bounds.highIncluded then "lte" else "lt", literal schema attr high)]
  | .not criterion =>
    (compile schema criterion).map fun inner => single "bool" (single "must_not" (.arr [inner]))
  | .all criteria =>
    (compileAll schema criteria).map fun parts => single "bool" (single "must" (.arr parts))
  | .any criteria =>
    (compileAll schema criteria).map fun parts => single "bool" (single "should" (.arr parts))

/-- The forms of some criteria, up to the first that has none. -/
def compileAll (schema : Schema) : List Criterion → Except SearchError (List Json)
  | [] => .ok []
  | criterion :: rest => do
    let part ← compile schema criterion
    let parts ← compileAll schema rest
    return part :: parts

end

end SearchGateway.Elasticsearch
