import SearchGateway.Json.Basic

/-!
# Merging JSON values

A fragment is merged into a value key by key: where both hold objects the objects are
merged in turn, and everywhere else the fragment takes the place of what was there.
-/
namespace SearchGateway.Json

mutual

/-- What becomes of `target` when a fragment is merged into it. -/
def mergedInto : (fragment target : Json) → Json
  | .obj ⟨fragment⟩, .obj target => .obj (mergeFields fragment target)
  | fragment, _ => fragment

/-- Merges the fields of a fragment into the fields of an object, one after the other. -/
def mergeFields : (fragment : List (String × Json)) → (target : JsonObject) → JsonObject
  | [], target => target
  | (key, value) :: rest, target =>
    mergeFields rest <| target.insert key <|
      match target.get? key with
      | some existing => value.mergedInto existing
      | none => value

end

/-- Merges a fragment into a value. -/
def merge (target fragment : Json) : Json := fragment.mergedInto target

end SearchGateway.Json
