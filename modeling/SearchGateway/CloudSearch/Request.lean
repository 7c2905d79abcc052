import SearchGateway.CloudSearch.Simple
import SearchGateway.CloudSearch.Structured

/-!
# Search requests of CloudSearch

Each clause of a query becomes one part of a search request; parts that no clause asks for
are not sent.  The main query is written in the language of the parser, a filter always in
the structured language.
-/
namespace SearchGateway.CloudSearch

/-- The parameters of a search. -/
structure Request where
  query : Option String
  queryParser : Option String
  filterQuery : Option String
  returned : Option String
  sort : Option String
  size : Option Nat
  start : Option Nat
  cursor : Option String
deriving DecidableEq, Repr, Inhabited

namespace Request

/-- A request without parameters. -/
def empty : Request := ⟨none, none, none, none, none, none, none, none⟩

/-- A request as it is sent. -/
def toJson (r : Request) : Json :=
  .ofFields <| List.flatten
    [(r.query.map fun t => ("query", Json.str t)).toList,
      (r.queryParser.map fun t => ("queryParser", Json.str t)).toList,
      (r.filterQuery.map fun t => ("filterQuery", Json.str t)).toList,
      (r.returned.map fun t => ("return", Json.str t)).toList,
      (r.sort.map fun t => ("sort", Json.str t)).toList,
      (r.size.map fun n => ("size", Json.nat n)).toList,
      (r.start.map fun n => ("start", Json.nat n)).toList,
      (r.cursor.map fun t => ("cursor", Json.str t)).toList]

end Request

/-- The text of a criterion in the language of a parser. -/
def criterionText (parser : Parser) (schema : Schema) (criterion : Criterion) :
    Except SearchError String :=
  match parser with
  | .structured => structuredText parser schema criterion
  | .simple => simpleText criterion

/-- The list of shown fields; the wildcard shows all. -/
def returnedText (attrs : List Attribute) : String :=
  ",".intercalate <| attrs.map fun attr =>
    if attr.isWildcard then "_all_fields" else attr.flatName

/-- The order of the hits. -/
def sortText (keys : List SortKey) : String :=
  ",".intercalate <| keys.map fun key =>
    key.attr.flatName ++ (match key.direction with
      | .ascending => " asc"
      | .descending => " desc")

/-- A number of hits. -/
def countOf (parser : Parser) (value : FieldValue) (part : PartKind) : Except SearchError Nat :=
  match value.count? with
  | some n => .ok n
  | none => .error (.unsupportedPart parser.target part)

/-- The place where an earlier answer ended. -/
def cursorOf (parser : Parser) (value : FieldValue) : Except SearchError String :=
  match value with
  | .text cursor => .ok cursor
  | _ => .error (.unsupportedPart parser.target .scrollCursor)

/-- The text of a single clause. -/
def clauseText (parser : Parser) (schema : Schema) : Clause → Except SearchError String
  | .matching criterion => criterionText parser schema criterion
  | .filter criterion => structuredText parser schema criterion
  | .select attrs => .ok (returnedText attrs)
  | .order keys => .ok (sortText keys)
  | .limit value => (countOf parser value .limit).map Decimal.natText
  | .offset value => (countOf parser value .offset).map Decimal.natText
  | .scrollCursor value => cursorOf parser value

/-- The request with the part of one more clause. -/
def Request.add (parser : Parser) (schema : Schema) (r : Request) (clause : Clause) :
    Except SearchError Request :=
  match clause with
  | .matching criterion =>
    (criterionText parser schema criterion).map fun text =>
      { r with query := some text, queryParser := some parser.name }
  | .filter criterion =>
    (structuredText parser schema criterion).map fun text => { r with filterQuery := some text }
  | .select attrs => .ok { r with returned := some (returnedText attrs) }
  | .order keys => .ok { r with sort := some (sortText keys) }
  | .limit value => (countOf parser value .limit).map fun n => { r with size := some n }
  | .offset value => (countOf parser value .offset).map fun n => { r with start := some n }
  | .scrollCursor value => (cursorOf parser value).map fun text => { r with cursor := some text }

/-- The request with the parts of some clauses, up to the first that has none. -/
def Request.addAll (parser : Parser) (schema : Schema) (r : Request) :
    List Clause → Except SearchError Request
  | [] => .ok r
  | clause :: rest => do Request.addAll parser schema (← r.add parser schema clause) rest

/-- The request for the clauses of a query. -/
def request (parser : Parser) (schema : Schema) (clauses : List Clause) :
    Except SearchError Request :=
  Request.empty.addAll parser schema clauses

end SearchGateway.CloudSearch
