import SearchGateway.Elasticsearch.Body
import SearchGateway.Results
import SearchGateway.RetryPolicy

/-!
# Settings

What a caller can configure.  Settings are read from a JSON object, in which each of them
may be missing and unknown ones are passed over, or from an array of their values in the
order of declaration, which may end early.
-/
namespace SearchGateway

/-- The settings of the gateway. -/
structure Settings where
  retryMaxAttempts : Nat
  retryBaseDelayMs : Nat
  retryMaxWaitMs : Nat
  cloudSearchMaxPayloadBytes : Nat
  elasticsearchMaxPayloadBytes : Nat
  scrollKeepAlive : String
  multiValueSeparator : String
deriving DecidableEq, Repr, Inhabited

namespace Settings

/-- The settings when nothing else is asked for. -/
def standard : Settings :=
  ⟨10, 50, 4000, 5 * 1024 * 1024, 10 * 1024 * 1024, Elasticsearch.defaultKeepAlive,
    Results.defaultSeparator⟩

/-- The names of the settings, in the order of declaration. -/
def names : List String :=
  ["retry_max_attempts", "retry_base_delay_ms", "retry_max_wait_ms",
    "cloudsearch_max_payload_bytes", "elasticsearch_max_payload_bytes", "scroll_keep_alive",
    "multi_value_separator"]

/-- A number among the settings. -/
def numberAt? (fields : JsonObject) (name : String) (default : Nat) : Option Nat :=
  match fields.get? name with
  | none => some default
  | some value => value.count?

/-- A text among the settings. -/
def textAt? (fields : JsonObject) (name : String) (default : String) : Option String :=
  match fields.get? name with
  | none => some default
  | some value => value.text?

/-- Reads settings from the fields of an object. -/
def ofFields? (fields : JsonObject) : Option Settings := do
  return {
    retryMaxAttempts := ← numberAt? fields "retry_max_attempts" standard.retryMaxAttempts
    retryBaseDelayMs := ← numberAt? fields "retry_base_delay_ms" standard.retryBaseDelayMs
    retryMaxWaitMs := ← numberAt? fields "retry_max_wait_ms" standard.retryMaxWaitMs
    cloudSearchMaxPayloadBytes :=
      ← numberAt? fields "cloudsearch_max_payload_bytes" standard.cloudSearchMaxPayloadBytes
    elasticsearchMaxPayloadBytes :=
      ← numberAt? fields "elasticsearch_max_payload_bytes" standard.elasticsearchMaxPayloadBytes
    scrollKeepAlive := ← textAt? fields "scroll_keep_alive" standard.scrollKeepAlive
    multiValueSeparator :=
      ← textAt? fields "multi_value_separator" standard.multiValueSeparator }

/-- Reads settings. -/
def ofJson? : Json → Option Settings
  | .obj fields => ofFields? fields
  | .arr values =>
    if values.length ≤ names.length then ofFields? (.ofList (names.zip values)) else none
  | _ => none

/-- The settings by their names, in the order of declaration. -/
def fields (s : Settings) : List (String × Json) :=
  names.zip
    [.nat s.retryMaxAttempts, .nat s.retryBaseDelayMs, .nat s.retryMaxWaitMs,
      .nat s.cloudSearchMaxPayloadBytes, .nat s.elasticsearchMaxPayloadBytes,
      .str s.scrollKeepAlive, .str s.multiValueSeparator]

/-- The retry policy of some settings. -/
def retryPolicy (s : Settings) : RetryPolicy :=
  ⟨s.retryMaxAttempts, s.retryBaseDelayMs * RetryPolicy.nanosPerMilli,
    s.retryMaxWaitMs * RetryPolicy.nanosPerMilli⟩

/-- The largest upload to an engine in bytes. -/
def maxPayloadBytes (s : Settings) : Engine → Nat
  | .cloudSearch => s.cloudSearchMaxPayloadBytes
  | .elasticsearch => s.elasticsearchMaxPayloadBytes

end Settings
end SearchGateway
