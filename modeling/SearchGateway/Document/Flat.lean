import SearchGateway.FieldName
import SearchGateway.Json.Basic

/-!
# Flat objects

Engines store documents without nesting.  Flattening a JSON object gives each value that is
not an object the flat name made of the keys on the way to it; unflattening cuts the flat
names into their pieces and rebuilds the nesting.  Arrays are values of their own and are
not entered.  Where the pieces of two names collide, the longer name wins: an object
replaces a plain value, and a plain value does not replace an object.
-/
namespace SearchGateway.Document

mutual

/-- Adds a value under a flat name, or its fields under the names below it. -/
def flattenValue (name : String) (value : Json) (flat : JsonObject) : JsonObject :=
  match value with
  | .obj ⟨fields⟩ => flattenFields (some name) fields flat
  | value => flat.insert name value

/-- Adds the fields of an object with the flat name `parent`, in the order of the keys. -/
def flattenFields (parent : Option String) (fields : List (String × Json))
    (flat : JsonObject) : JsonObject :=
  match fields with
  | [] => flat
  | (key, value) :: rest =>
    flattenFields parent rest (flattenValue (FieldName.below parent key) value flat)

end

/-- The flat form of an object; of two values with one flat name the later one stays. -/
def flatten (fields : JsonObject) : JsonObject := flattenFields none fields.entries .empty

/-- Puts a value where the pieces of its flat name lead, building the objects on the way. -/
def place (fields : JsonObject) (parts : List String) (value : Json) : JsonObject :=
  match parts with
  | [] => fields
  | [leaf] =>
    match fields.get? leaf with
    | some (.obj _) => fields
    | _ => fields.insert leaf value
  | head :: next :: rest =>
    let child := ((fields.get? head).bind Json.fields?).getD .empty
    fields.insert head (.obj (place child (next :: rest) value))

/-- The nested form of a flat object: its values are put in place in the order of the
keys. -/
def unflatten (flat : JsonObject) : JsonObject :=
  flat.entries.foldl (fun fields entry => place fields (FieldName.parts entry.1) entry.2)
    .empty

end SearchGateway.Document
