import SearchGateway.Client.Basic
import SearchGateway.CloudSearch.IndexField
import SearchGateway.Elasticsearch.Mapping
import SearchGateway.Settings

/-!
# Endpoints

An endpoint is bound to one index on one engine.  It knows how queries for this index are
compiled, how large an upload may be and how often a throttled call is tried.  An endpoint
for an engine cannot be bound to an index that lives on the other one.
-/
namespace SearchGateway

/-- The gateway to one index. -/
structure Endpoint where
  index : SearchIndex
  /-- The language of main queries on CloudSearch. -/
  parser : CloudSearch.Parser
  /-- How long Elasticsearch keeps the context of a scroll. -/
  keepAlive : String
  retry : RetryPolicy
  /-- The largest upload in bytes. -/
  maxPayload : Nat
  /-- What stands between the values of a field of a hit. -/
  separator : String
deriving Inhabited

/-- Fails unless an index lives on an engine. -/
def SearchIndex.ensureEngine (index : SearchIndex) (engine : Engine) :
    Except SearchError Unit :=
  if index.engine = engine then .ok ()
  else .error (.incompatibleEngine index.name index.engine.name engine.name)

namespace Endpoint

/-- The endpoint of an engine for an index, which must live there. -/
def bind (engine : Engine) (index : SearchIndex) (settings : Settings) :
    Except SearchError Endpoint :=
  (index.ensureEngine engine).map fun _ =>
    { index
      parser := .structured
      keepAlive := settings.scrollKeepAlive
      retry := settings.retryPolicy
      maxPayload := settings.maxPayloadBytes engine
      separator := settings.multiValueSeparator }

/-- The engine of an endpoint. -/
def engine (e : Endpoint) : Engine := e.index.engine

/-- The request for a query, compiled against the schema of the index of the endpoint. -/
def compile (e : Endpoint) (q : Query) : Except SearchError Request :=
  match e.engine with
  | .cloudSearch =>
    (CloudSearch.request e.parser e.index.schema q.clauses).map .cloudSearch
  | .elasticsearch =>
    (Elasticsearch.body e.keepAlive e.index.schema q.clauses).map (.elasticsearch e.index.name)

/-- The field definitions that are sent to the engine, one call for each. -/
def definitions (e : Endpoint) : List Json :=
  match e.engine with
  | .cloudSearch => CloudSearch.fieldDefinitions e.index.schema
  | .elasticsearch => [Elasticsearch.mapping e.index.schema]

/-- The name of the upload in the metrics. -/
def uploadName (e : Endpoint) : String :=
  match e.engine with
  | .cloudSearch => "cloudsearch.upload"
  | .elasticsearch => "elasticsearch.bulk"

/-- The name of the definition of fields in the metrics. -/
def defineName (e : Endpoint) : String :=
  match e.engine with
  | .cloudSearch => "cloudsearch.define_field"
  | .elasticsearch => "elasticsearch.put_mapping"

end Endpoint
end SearchGateway
