import SearchGateway.Client.Basic

/-!
# Recording clients

A client without an engine: it keeps what is sent to it, gives one response to every search
and throttles as many calls as it is told to.  A throttled call is counted, but not
kept.
-/
namespace SearchGateway

/-- A client that keeps what is sent to it. -/
structure RecordingClient where
  searches : List Request
  uploads : List (List Json)
  definitions : List Json
  /-- The response to every search. -/
  response : Json
  /-- How many of the next calls are throttled. -/
  throttleRemaining : Nat
  /-- How many calls have been made. -/
  calls : Nat
deriving Inhabited

namespace RecordingClient

/-- A client that has kept nothing and gives one response to every search. -/
def ofResponse (response : Json) : RecordingClient := ⟨[], [], [], response, 0, 0⟩

/-- A client that has kept nothing and answers with an empty object. -/
def empty : RecordingClient := ofResponse (.obj .empty)

/-- Makes the client throttle the next calls. -/
def throttleNext (c : RecordingClient) (count : Nat) : RecordingClient :=
  { c with throttleRemaining := count }

/-- All envelopes that have been uploaded. -/
def uploaded (c : RecordingClient) : List Json := c.uploads.flatten

/-- The error on a call that is throttled, by the number of the call. -/
def throttledOn (call : Nat) : ClientError :=
  .throttled ("Rate exceeded on call " ++ Decimal.natText call)

/-- Counts a call and, unless it is throttled, answers it. -/
def handle (c : RecordingClient)
    (answer : RecordingClient → Response × RecordingClient) : Response × RecordingClient :=
  let c := { c with calls := c.calls + 1 }
  match c.throttleRemaining with
  | 0 => answer c
  | remaining + 1 =>
    (.error (throttledOn c.calls), { c with throttleRemaining := remaining })

/-- Keeps a search. -/
def search (request : Request) (c : RecordingClient) : Response × RecordingClient :=
  c.handle fun c => (.ok c.response, { c with searches := c.searches ++ [request] })

/-- Keeps an upload. -/
def upload (documents : List Json) (c : RecordingClient) : Response × RecordingClient :=
  c.handle fun c =>
    (.ok (.ofFields [("status", .str "success"), ("adds", .nat documents.length)]),
      { c with uploads := c.uploads ++ [documents] })

/-- Keeps a field definition. -/
def defineField (definition : Json) (c : RecordingClient) : Response × RecordingClient :=
  c.handle fun c =>
    (.ok (.ofFields [("acknowledged", .bool true)]),
      { c with definitions := c.definitions ++ [definition] })

instance : SearchClient RecordingClient where
  search := search
  upload := upload
  defineField := defineField

end RecordingClient
end SearchGateway
