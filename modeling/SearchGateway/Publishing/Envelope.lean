import SearchGateway.Publishing.Fields
import SearchGateway.Schema.Basic

/-!
# Envelopes

Each engine wants a document in an envelope that says what is to be done with it: it is
added under its id, or the document with an id is deleted.
-/
namespace SearchGateway

namespace Engine

/-- The envelope that adds the fields of a document to an index. -/
def addEnvelope (engine : Engine) (index id : String) (fields : JsonObject) : Json :=
  .ofFields <|
    match engine with
    | .cloudSearch => [("type", Json.str "add"), ("id", .str id), ("fields", .obj fields)]
    | .elasticsearch =>
      [("_op_type", .str "index"), ("_index", .str index), ("_id", .str id),
        ("_source", .obj fields)]

/-- The envelope that deletes a document from an index. -/
def deleteEnvelope (engine : Engine) (index id : String) : Json :=
  .ofFields <|
    match engine with
    | .cloudSearch => [("type", Json.str "delete"), ("id", .str id)]
    | .elasticsearch =>
      [("_op_type", .str "delete"), ("_index", .str index), ("_id", .str id)]

/-- The envelope that adds a document to an index under its id. -/
def envelope (engine : Engine) (index : String) (d : Document) : Except SearchError Json :=
  d.id.map fun id => engine.addEnvelope index id d.publishedFields

end Engine
end SearchGateway
