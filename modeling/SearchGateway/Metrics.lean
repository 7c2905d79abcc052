import SearchGateway.Decimal.Numeral
import SearchGateway.Json.Basic
import SearchGateway.Schema.Basic

/-!
# Metrics

What the gateway does is noted down as events, and the metrics are read off the events.  A
metric is a counter, a histogram of recorded numbers or a number of time samples; it is named
by a text that holds its labels, and the report lists the metrics by that text.
-/
namespace SearchGateway

/-- How a search ended. -/
inductive QueryStatus where
  | success
  | error
  | invalid
deriving DecidableEq, Repr, Inhabited

/-- The name of the way in which a search ended. -/
def QueryStatus.name : QueryStatus → String
  | .success => "success"
  | .error => "error"
  | .invalid => "invalid"

/-- What publishing does with documents. -/
inductive Operation where
  | publish
  | delete
deriving DecidableEq, Repr, Inhabited

/-- The name of an operation. -/
def Operation.name : Operation → String
  | .publish => "publish"
  | .delete => "delete"

/-- Something that the gateway did. -/
inductive Event where
  /-- A search ended. -/
  | searched (engine : Engine) (status : QueryStatus)
  /-- A search was sent and took some time. -/
  | searchTimed (engine : Engine)
  /-- A response with so many hits was received. -/
  | received (engine : Engine) (hits : Nat)
  /-- All envelopes of an operation were uploaded. -/
  | uploaded (engine : Engine) (operation : Operation) (count : Nat)
  /-- Objects were left out of a batch. -/
  | leftOut (engine : Engine) (count : Nat)
  /-- A batch of so many bytes is about to be uploaded. -/
  | batch (engine : Engine) (bytes : Nat)
  /-- Documents were cut into so many groups. -/
  | cut (groups : Nat)
  /-- Fields were defined, or failed to be. -/
  | defined (engine : Engine) (count : Nat) (success : Bool)
  /-- A throttled operation is tried again. -/
  | retried (operation : String)
  /-- A throttled operation is given up. -/
  | exhausted (operation : String)
deriving DecidableEq, Repr, Inhabited

/-- What an event adds to a metric. -/
inductive Measure where
  | add (count : Nat)
  | record (value : Nat)
  | time
deriving DecidableEq, Repr

/-- The state of a metric. -/
inductive Reading where
  | counter (total : Nat)
  /-- The recorded numbers in increasing order. -/
  | histogram (values : List Nat)
  | samples (count : Nat)
deriving DecidableEq, Repr, Inhabited

/-- The state of a metric as JSON: of time samples only the number is told. -/
def Reading.toJson : Reading → Json
  | .counter total => .nat total
  | .histogram values => .arr (values.map .nat)
  | .samples count => .ofFields [("samples", .nat count)]

namespace Metrics

/-- The text that names a metric with labels. -/
def key (name : String) (labels : List (String × String)) : String :=
  name ++ "\x7b" ++
    ",".intercalate (labels.map fun label => label.1 ++ "=" ++ label.2) ++ "\x7d"

/-- What an event adds to which metrics. -/
def measures : Event → List (String × Measure)
  | .searched engine status =>
    [(key "search_bridge_search_queries_total"
        [("backend", engine.name), ("status", status.name)], .add 1)]
  | .searchTimed engine =>
    [(key "search_bridge_operation_seconds"
        [("backend", engine.name), ("operation", "search")], .time)]
  | .received engine hits =>
    [(key "search_bridge_search_results" [("backend", engine.name)], .record hits)]
  | .uploaded engine operation count =>
    [(key "search_bridge_documents_total"
        [("backend", engine.name), ("operation", operation.name)], .add count)]
  | .leftOut engine count =>
    [(key "search_bridge_documents_rejected_total" [("backend", engine.name)], .add count)]
  | .batch engine bytes =>
    [(key "search_bridge_batch_bytes" [("backend", engine.name)], .record bytes)]
  | .cut groups =>
    [(key "search_bridge_batch_splits_total" [], .add 1),
      (key "search_bridge_batch_split_groups" [], .record groups)]
  | .defined engine count success =>
    [(key "search_bridge_field_definitions_total"
        [("backend", engine.name), ("status", if success then "success" else "error")],
      .add count)]
  | .retried operation =>
    [(key "search_bridge_retries_total" [("operation", operation)], .add 1)]
  | .exhausted operation =>
    [(key "search_bridge_retries_exhausted_total" [("operation", operation)], .add 1)]

/-- Puts a number at its place among increasing numbers. -/
def insertSorted (value : Nat) : List Nat → List Nat
  | [] => [value]
  | first :: rest =>
    if value ≤ first then value :: first :: rest else first :: insertSorted value rest

/-- The state of a metric after one more measure. -/
def Reading.after (reading : Option Reading) (measure : Measure) : Reading :=
  match measure, reading with
  | .add count, some (.counter total) => .counter (total + count)
  | .add count, _ => .counter count
  | .record value, some (.histogram values) => .histogram (insertSorted value values)
  | .record value, _ => .histogram [value]
  | .time, some (.samples count) => .samples (count + 1)
  | .time, _ => .samples 1

/-- The state of all metrics after some events, by the texts that name them. -/
def report (events : List Event) : KeyMap Reading :=
  (events.flatMap measures).foldl (fun readings (name, measure) =>
    readings.insert name (Reading.after (readings.get? name) measure)) .empty

end Metrics
end SearchGateway
