import SearchGateway.Client.Retry
import SearchGateway.Endpoint.Basic

/-!
# Defining fields

The fields of an index are made known to the engine of an endpoint: CloudSearch takes one
definition after the other, Elasticsearch a mapping of all fields.  Throttled calls are
tried again, and the first call that fails for good ends the definition.
-/
namespace SearchGateway.Endpoint

variable {σ : Type} [SearchClient σ]

/-- Sends one definition. -/
def sendDefinition (e : Endpoint) (definition : Json) (s : Session σ) : Response × Session σ :=
  e.retry.run e.defineName (fun s => s.call (SearchClient.defineField definition)) s

/-- Sends some definitions, up to the first that fails. -/
def sendDefinitions (e : Endpoint) (definitions : List Json) (s : Session σ) :
    Except ClientError Unit × Session σ :=
  match definitions with
  | [] => (.ok (), s)
  | definition :: rest =>
    match e.sendDefinition definition s with
    | (.ok _, s) => e.sendDefinitions rest s
    | (.error error, s) => (.error error, s)

/-- How many fields a definition of all fields makes known. -/
def fieldCount (e : Endpoint) : Nat :=
  match e.engine with
  | .cloudSearch => (CloudSearch.fieldDefinitions e.index.schema).length
  | .elasticsearch => (Elasticsearch.properties e.index.schema).size

/-- How many fields are noted down when a definition fails: on CloudSearch the one that
failed, on Elasticsearch all of them. -/
def failedCount (e : Endpoint) : Nat :=
  match e.engine with
  | .cloudSearch => 1
  | .elasticsearch => e.fieldCount

/-- Makes the fields of the index known to the engine and answers their number. -/
def defineFields (e : Endpoint) (s : Session σ) : Except SearchError Nat × Session σ :=
  match e.sendDefinitions e.definitions s with
  | (.ok _, s) => (.ok e.fieldCount, s.note (.defined e.engine e.fieldCount true))
  | (.error error, s) =>
    (.error (.client error), s.note (.defined e.engine e.failedCount false))

end SearchGateway.Endpoint
