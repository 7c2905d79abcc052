import SearchGateway.Table
import SearchGateway.Calendar.Timestamp
import SearchGateway.Text.Printable
import SearchGateway.Json.Compact

/-!
# Field values and documents

A document is a table of named field values, kept in the order in which the fields were
first set; a field value is a plain value, a list of field values or a document of its own.
Besides the two types this file holds what a field value looks like elsewhere: as JSON,
in a message, as a term of a query and as a count of results.
-/
namespace SearchGateway

/-- The value of a field of a document, and a literal of a query. -/
inductive FieldValue where
  | null
  | bool (value : Bool)
  | integer (value : Int)
  | double (value : Float)
  | text (value : String)
  | date (value : Calendar.Instant)
  | list (items : List FieldValue)
  | nested (document : Table FieldValue)
deriving Inhabited

/-- Named field values, in the order in which the fields were first set. -/
abbrev Document := Table FieldValue

namespace FieldValue

/-- The name of the kind of a field value. -/
def kindName : FieldValue → String
  | .null => "null"
  | .bool _ => "boolean"
  | .integer _ => "integer"
  | .double _ => "double"
  | .text _ => "text"
  | .date _ => "date"
  | .list _ => "list"
  | .nested _ => "document"

/-- Whether a field value is null. -/
def isNull : FieldValue → Bool
  | .null => true
  | _ => false

/-- A double as JSON; one that is not finite has no JSON number. -/
def doubleJson (x : Float) : Json := if x.isFinite then .float x else .null

mutual

/-- A field value as JSON: a date becomes its timestamp and a nested document an object. -/
def toJson : FieldValue → Json
  | .null => .null
  | .bool value => .bool value
  | .integer value => .int value
  | .double value => doubleJson value
  | .text value => .str value
  | .date value => .str (Calendar.Timestamp.format value)
  | .list items => .arr (itemsToJson items)
  | .nested ⟨rows⟩ => .obj (rowsToJson rows .empty)

/-- The items of a list as JSON. -/
def itemsToJson : List FieldValue → List Json
  | [] => []
  | item :: rest => item.toJson :: itemsToJson rest

/-- Sets the rows of a document as fields of an object. -/
def rowsToJson : List (String × FieldValue) → JsonObject → JsonObject
  | [], fields => fields
  | (name, value) :: rest, fields => rowsToJson rest (fields.insert name value.toJson)

end

/-- How doubles are written outside of JSON: always without an exponent, and a whole
number without a point. -/
def doubleLayout : Decimal.Layout where
  tie := .up
  positional _ := true
  wholeWithZero := false

/-- The text of a truth value. -/
def boolText (value : Bool) : String := if value then "true" else "false"

mutual

/-- A field value in a message. -/
def display : FieldValue → String
  | .null => "null"
  | .bool value => boolText value
  | .integer value => Decimal.wholeText value
  | .double value => doubleLayout.text value
  | .text value => Text.quoted value
  | .date value => Calendar.Timestamp.format value
  | .list items => "[" ++ ", ".intercalate (displayItems items) ++ "]"
  | .nested ⟨rows⟩ => (Json.obj (rowsToJson rows .empty)).compact

/-- The items of a list in a message. -/
def displayItems : List FieldValue → List String
  | [] => []
  | item :: rest => item.display :: displayItems rest

end

/-- The text of a single plain value in a query; null, lists and documents have none. -/
def term? : FieldValue → Option String
  | .text value => some value
  | .integer value => some (Decimal.wholeText value)
  | .double value => some (doubleLayout.text value)
  | .bool value => some (boolText value)
  | .date value => some (Calendar.Timestamp.format value)
  | .null | .list _ | .nested _ => none

/-- A whole number that is not negative. -/
def count? : FieldValue → Option Nat
  | .integer (.ofNat n) => some n
  | _ => none

mutual

/-- A literal read as a date where its text is a timestamp, inside lists too. -/
def asDate : FieldValue → FieldValue
  | .text value =>
    match Calendar.Timestamp.parse? value with
    | some instant => .date instant
    | none => .text value
  | .list items => .list (itemsAsDates items)
  | value => value

/-- The items of a list read as dates. -/
def itemsAsDates : List FieldValue → List FieldValue
  | [] => []
  | item :: rest => item.asDate :: itemsAsDates rest

end

mutual

/-- Equality of field values.  Doubles are compared as numbers, and documents without regard
to the order of their fields. -/
def same : FieldValue → FieldValue → Bool
  | .null, .null => true
  | .bool a, .bool b => a == b
  | .integer a, .integer b => a == b
  | .double a, .double b => a == b
  | .text a, .text b => a == b
  | .date a, .date b => a == b
  | .list as, .list bs => sameItems as bs
  | .nested ⟨as⟩, .nested bs => as.length == bs.size && sameRows as bs
  | _, _ => false

/-- Equality of lists, item by item. -/
def sameItems : List FieldValue → List FieldValue → Bool
  | [], [] => true
  | a :: as, b :: bs => a.same b && sameItems as bs
  | _, _ => false

/-- Whether a document has equal values at the names of the given rows. -/
def sameRows : List (String × FieldValue) → Document → Bool
  | [], _ => true
  | (name, a) :: rest, other =>
    (match other.get? name with
      | some b => a.same b
      | none => false) && sameRows rest other

end

end FieldValue

namespace Document

/-- A document as a JSON object. -/
def toJson (d : Document) : JsonObject := FieldValue.rowsToJson d.rows .empty

end Document
end SearchGateway
