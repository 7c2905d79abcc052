import SearchGateway.KeyMap

/-!
# JSON values

JSON values as they travel between the gateway and the engines.  Whole numbers and
doubles are different numbers, and the keys of an object are ordered, so that an object
has one form only: two objects with the same value at every key are equal.  Besides the
type this file holds the views that other files reason with: the value at a key, the value
at the end of a chain of keys, and equality of values.
-/
namespace SearchGateway

/-- A JSON value. -/
inductive Json where
  | null
  | bool (value : Bool)
  | int (value : Int)
  | float (value : Float)
  | str (text : String)
  | arr (items : List Json)
  | obj (fields : KeyMap Json)
deriving Inhabited

/-- The fields of a JSON object, in the order of their keys. -/
abbrev JsonObject := KeyMap Json

namespace Json

/-- A JSON object from its fields. -/
def ofFields (fields : List (String × Json)) : Json := .obj (.ofList fields)

/-- A whole number that is not negative. -/
def nat (n : Nat) : Json := .int n

/-- The fields of an object. -/
def fields? : Json → Option JsonObject
  | .obj fields => some fields
  | _ => none

/-- The items of an array. -/
def items? : Json → Option (List Json)
  | .arr items => some items
  | _ => none

/-- The text of a string. -/
def text? : Json → Option String
  | .str text => some text
  | _ => none

/-- A truth value. -/
def bool? : Json → Option Bool
  | .bool value => some value
  | _ => none

/-- A whole number that is not negative. -/
def count? : Json → Option Nat
  | .int (.ofNat n) => some n
  | _ => none

/-- Whether a value is an object. -/
def isObject (j : Json) : Bool := j.fields?.isSome

/-- The value at a key of an object. -/
def get? (j : Json) (key : String) : Option Json := j.fields?.bind (·.get? key)

/-- The value that is reached by following keys through nested objects. -/
def at? (j : Json) : List String → Option Json
  | [] => some j
  | key :: rest => (j.get? key).bind (·.at? rest)

mutual

/-- Equality of values: numbers of different kinds differ, and doubles are compared as
numbers, so that the two zeros are equal. -/
def same : Json → Json → Bool
  | .null, .null => true
  | .bool a, .bool b => a == b
  | .int a, .int b => a == b
  | .float a, .float b => a == b
  | .str a, .str b => a == b
  | .arr as, .arr bs => sameItems as bs
  | .obj ⟨as⟩, .obj ⟨bs⟩ => sameFields as bs
  | _, _ => false

/-- Equality of arrays, item by item. -/
def sameItems : List Json → List Json → Bool
  | [], [] => true
  | a :: as, b :: bs => a.same b && sameItems as bs
  | _, _ => false

/-- Equality of objects, field by field in the order of the keys. -/
def sameFields : List (String × Json) → List (String × Json) → Bool
  | [], [] => true
  | (k, a) :: as, (l, b) :: bs => k == l && a.same b && sameFields as bs
  | _, _ => false

end

mutual

/-- The keys of every object in a value stand in increasing order. -/
def Ordered : Json → Prop
  | .arr items => OrderedItems items
  | .obj ⟨fields⟩ => (KeyMap.mk fields).Sorted ∧ OrderedFields fields
  | _ => True

/-- Every item has its keys in increasing order. -/
def OrderedItems : List Json → Prop
  | [] => True
  | item :: rest => item.Ordered ∧ OrderedItems rest

/-- Every field value has its keys in increasing order. -/
def OrderedFields : List (String × Json) → Prop
  | [] => True
  | (_, value) :: rest => value.Ordered ∧ OrderedFields rest

end

end Json
end SearchGateway
