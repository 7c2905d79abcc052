import SearchGateway.Error
import SearchGateway.Document.Value

/-!
# Kinds of fields

The kinds that a field of an index can be declared with, their tags, and the literals that
a query may compare a field of each kind with.
-/
namespace SearchGateway

/-- The kind of a field. -/
inductive FieldKind where
  | integer
  | double
  | string
  | stringArray
  | text
  | textArray
  | date
  | dateArray
  | boolean
  | struct
deriving DecidableEq, Repr, Inhabited

namespace FieldKind

/-- All kinds. -/
def all : List FieldKind :=
  [.integer, .double, .string, .stringArray, .text, .textArray, .date, .dateArray, .boolean,
    .struct]

/-- The tag of a kind. -/
def tag : FieldKind → String
  | .integer => "integer"
  | .double => "double"
  | .string => "string"
  | .stringArray => "string_array"
  | .text => "text"
  | .textArray => "text_array"
  | .date => "date"
  | .dateArray => "date_array"
  | .boolean => "boolean"
  | .struct => "struct"

/-- The kind with a given tag. -/
def ofTag (tag : String) : Except SearchError FieldKind :=
  match all.find? fun kind => kind.tag == tag with
  | some kind => .ok kind
  | none => .error (.invalidField ("unknown field type '" ++ tag ++ "'"))

/-- Whether a field holds numbers. -/
def isNumeric : FieldKind → Bool
  | .integer | .double => true
  | _ => false

/-- Whether a field holds dates. -/
def isDate : FieldKind → Bool
  | .date | .dateArray => true
  | _ => false

/-- Whether a literal is a date or the text of one. -/
def dateLike : FieldValue → Bool
  | .date _ => true
  | .text value => (Calendar.Timestamp.parse? value).isSome
  | _ => false

/-- Whether a literal is a text. -/
def textLike : FieldValue → Bool
  | .text _ => true
  | _ => false

/-- Whether a field of this kind may be compared with a literal.  Where the field holds an
array a single element will do. -/
def accepts : FieldKind → FieldValue → Bool
  | .integer, .integer _ => true
  | .double, .integer _ => true
  | .double, .double _ => true
  | .string, value => textLike value
  | .text, value => textLike value
  | .stringArray, .list items => items.all textLike
  | .stringArray, value => textLike value
  | .textArray, .list items => items.all textLike
  | .textArray, value => textLike value
  | .date, value => dateLike value
  | .dateArray, .list items => items.all dateLike
  | .dateArray, value => dateLike value
  | .boolean, .bool _ => true
  | _, _ => false

end FieldKind

/-- A literal as it is compared with a field of the given kind: on a date field the texts of
dates count as dates. -/
def FieldValue.forKind (value : FieldValue) : Option FieldKind → FieldValue
  | some kind => if kind.isDate then value.asDate else value
  | none => value

end SearchGateway
