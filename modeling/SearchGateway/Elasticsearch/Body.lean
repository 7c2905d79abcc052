import SearchGateway.Elasticsearch.Criteria
import SearchGateway.Json.Merge

/-!
# Search bodies of Elasticsearch

Each clause of a query becomes a fragment of JSON, and the body of the search is what
results when the fragments are merged in the order of the clauses.
-/
namespace SearchGateway.Elasticsearch

/-- How long the engine keeps the context of a scroll when nothing else is asked for. -/
def defaultKeepAlive : String := "1m"

/-- A number of hits. -/
def countOf (value : FieldValue) (part : PartKind) : Except SearchError Nat :=
  match value.count? with
  | some n => .ok n
  | none => .error (.unsupportedPart target part)

/-- The name of a direction of sorting. -/
def directionName : Direction → String
  | .ascending => "asc"
  | .descending => "desc"

/-- The fragment of a clause. -/
def fragment (keepAlive : String) (schema : Schema) : Clause → Except SearchError Json
  | .matching criterion => (compile schema criterion).map (single "query")
  | .filter criterion => (compile schema criterion).map (single "post_filter")
  | .select attrs => .ok (single "fields" (.arr (attrs.map fun attr => .str attr.flatName)))
  | .order keys =>
    .ok <| single "sort" <| .arr <| keys.map fun key =>
      single key.attr.flatName (single "order" (.str (directionName key.direction)))
  | .limit value => (countOf value .limit).map fun n => single "size" (.nat n)
  | .offset value => (countOf value .offset).map fun n => single "from" (.nat n)
  | .scrollCursor value =>
    .ok (.ofFields [("scroll", .str keepAlive), ("scroll_id", value.toJson)])

/-- Merges the fragments of some clauses into a body, up to the first that has none. -/
def addAll (keepAlive : String) (schema : Schema) (body : Json) :
    List Clause → Except SearchError Json
  | [] => .ok body
  | clause :: rest => do
    addAll keepAlive schema (body.merge (← fragment keepAlive schema clause)) rest

/-- The body for the clauses of a query. -/
def body (keepAlive : String) (schema : Schema) (clauses : List Clause) :
    Except SearchError Json :=
  addAll keepAlive schema (.obj .empty) clauses

end SearchGateway.Elasticsearch
