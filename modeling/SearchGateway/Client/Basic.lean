import SearchGateway.CloudSearch.Request
import SearchGateway.Metrics

/-!
# Clients

The gateway reaches an engine through a client, which sends searches, uploads and field
definitions and answers with the response of the engine or with an error.  A client has a
state of its own, and nothing is known about it but these three operations.

A session is the state of everything around the gateway: the client, the events that
have been noted down, the random numbers that remain and the pauses that have been made.
-/
namespace SearchGateway

/-- A search as it is sent to an engine. -/
inductive Request where
  | cloudSearch (parameters : CloudSearch.Request)
  | elasticsearch (index : String) (body : Json)
deriving Inhabited

/-- A request as JSON. -/
def Request.toJson : Request → Json
  | .cloudSearch parameters => parameters.toJson
  | .elasticsearch index body => .ofFields [("index", .str index), ("body", body)]

/-- The response of an engine, or why there is none. -/
abbrev Response := Except ClientError Json

/-- The operations of a client with states in `σ`. -/
class SearchClient (σ : Type) where
  /-- Sends a search. -/
  search : Request → σ → Response × σ
  /-- Uploads a batch of envelopes. -/
  upload : List Json → σ → Response × σ
  /-- Sends a field definition. -/
  defineField : Json → σ → Response × σ

/-- The state around the gateway, for a client with states in `σ`. -/
structure Session (σ : Type) where
  client : σ
  /-- The events so far, the latest first. -/
  events : List Event
  /-- The pauses so far in nanoseconds, the latest first. -/
  pauses : List Nat
  /-- The random numbers that will be drawn, by how many have been drawn before. -/
  draws : Nat → Nat

namespace Session

variable {σ : Type}

/-- A session in which nothing has happened. -/
def ofClient (client : σ) (draws : Nat → Nat) : Session σ := ⟨client, [], [], draws⟩

/-- Notes an event down. -/
def note (s : Session σ) (event : Event) : Session σ := { s with events := event :: s.events }

/-- Makes a pause. -/
def pause (s : Session σ) (nanos : Nat) : Session σ := { s with pauses := nanos :: s.pauses }

/-- The random number that is drawn for the next pause. -/
def draw (s : Session σ) : Nat := s.draws s.pauses.length

/-- Calls the client. -/
def call {α : Type} (s : Session σ) (operation : σ → α × σ) : α × Session σ :=
  let (answer, client) := operation s.client
  (answer, { s with client })

/-- Uploads a batch of envelopes. -/
def upload [SearchClient σ] (documents : List Json) (s : Session σ) : Response × Session σ :=
  s.call (SearchClient.upload documents)

end Session
end SearchGateway
