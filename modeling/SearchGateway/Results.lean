import SearchGateway.Document.Flat
import SearchGateway.Json.Compact
import SearchGateway.Schema.Basic

/-!
# Results

An engine answers a search with a response in a layout of its own.  A hit carries the
fields that were asked for under their flat names, each as an array of its values.  Reading
a hit replaces an array of one value by that value, joins several values with a separator
into one text, and rebuilds the nesting.
-/
namespace SearchGateway

/-- The response to a search, with the engine whose layout it has and the separator of the
values of a field. -/
structure Results where
  engine : Engine
  raw : Json
  separator : String
deriving Inhabited

namespace Results

/-- The separator when nothing else is asked for. -/
def defaultSeparator : String := "|"

/-- The hits of a response. -/
def hits (r : Results) : List Json :=
  let place := match r.engine with
    | .cloudSearch => ["hits", "hit"]
    | .elasticsearch => ["hits", "hits"]
  ((r.raw.at? place).bind Json.items?).getD []

/-- The number of hits in all pages.  Some clusters report a bare number, others put it into
an object. -/
def total (r : Results) : Nat :=
  match r.engine with
  | .cloudSearch => ((r.raw.at? ["hits", "found"]).bind Json.count?).getD 0
  | .elasticsearch =>
    match r.raw.at? ["hits", "total"] with
    | some total => (((total.get? "value").getD total).count?).getD 0
    | none => 0

/-- Where the next page begins. -/
def cursor? (r : Results) : Option String :=
  let place := match r.engine with
    | .cloudSearch => ["hits", "cursor"]
    | .elasticsearch => ["_scroll_id"]
  (r.raw.at? place).bind Json.text?

/-- A value among several values of a field: a string stands for itself, anything else is
written as JSON. -/
def plainText : Json → String
  | .str text => text
  | value => value.compact

/-- A field of a hit as a single value. -/
def collapse (separator : String) (value : Json) : Json :=
  match value with
  | .arr [] => .null
  | .arr [item] => item
  | .arr items => .str (separator.intercalate (items.map plainText))
  | value => value

/-- The document of a hit. -/
def decodeHit (separator : String) (hit : Json) : JsonObject :=
  match (hit.get? "fields").bind Json.fields? with
  | some fields => Document.unflatten (fields.mapValues (collapse separator))
  | none => .empty

/-- The documents of the hits. -/
def documents (r : Results) : List JsonObject := r.hits.map (decodeHit r.separator)

/-- The number of hits in this page. -/
def size (r : Results) : Nat := r.hits.length

end Results
end SearchGateway
