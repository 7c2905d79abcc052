import SearchGateway.Endpoint.Basic
import SearchGateway.Query.Validation

/-!
# Searching

A query is checked before anything is sent: it must be for the engine and the index of the
endpoint, it must fit the schema of its own index, and it must have a form in the query
language.  Then it is sent once; a search is not tried again.
-/
namespace SearchGateway.Endpoint

variable {σ : Type} [SearchClient σ]

/-- Fails unless a query is for the index of the endpoint. -/
def ensureIndex (e : Endpoint) (q : Query) : Except SearchError Unit :=
  if q.index.name = e.index.name then .ok ()
  else .error (.indexMismatch q.index.name e.index.name)

/-- Sends a request and notes down how it ended. -/
def send (e : Endpoint) (request : Request) (s : Session σ) :
    Except SearchError Results × Session σ :=
  match s.call (SearchClient.search request) with
  | (.ok raw, s) =>
    let results : Results := ⟨e.engine, raw, e.separator⟩
    (.ok results,
      ((s.note (.received e.engine results.size)).note (.searched e.engine .success)).note
        (.searchTimed e.engine))
  | (.error error, s) =>
    (.error (.client error), (s.note (.searched e.engine .error)).note (.searchTimed e.engine))

/-- The outcome of a search, the query with the messages of its validation, and the session
after it. -/
structure Executed (σ : Type) where
  outcome : Except SearchError Results
  query : Query
  session : Session σ

/-- Runs a query: checks it, compiles it and sends it. -/
def execute (e : Endpoint) (q : Query) (s : Session σ) : Executed σ :=
  match q.index.ensureEngine e.engine, e.ensureIndex q with
  | .error error, _ => ⟨.error error, q, s⟩
  | .ok _, .error error => ⟨.error error, q, s⟩
  | .ok _, .ok _ =>
    let validated := q.validated
    match q.ensureValid with
    | .error error => ⟨.error error, validated, s.note (.searched e.engine .invalid)⟩
    | .ok _ =>
      match e.compile validated with
      | .error error => ⟨.error error, validated, s⟩
      | .ok request =>
        let (outcome, s) := e.send request s
        ⟨outcome, validated, s⟩

end SearchGateway.Endpoint
