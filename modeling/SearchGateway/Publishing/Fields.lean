import SearchGateway.Document.Flat
import SearchGateway.Document.Value
import SearchGateway.Error

/-!
# Published fields

What is sent to an engine of a document: the fields of its flat form that are not blank,
with truth values as texts.  A published document is known by its id.

The white space of a text is the set of characters with the Unicode property `White_Space`; it
is larger than the six characters that `Char.isWhitespace` knows.  A text is blank when it holds
nothing else, and trimming a text removes a run of such characters at either end.
-/
namespace SearchGateway

namespace Text

/-- White space: the characters with the Unicode property `White_Space`. -/
def isBlank (c : Char) : Bool :=
  let n := c.toNat
  (9 ≤ n && n ≤ 13) || n == 0x20 || n == 0x85 || n == 0xA0 || n == 0x1680 ||
    (0x2000 ≤ n && n ≤ 0x200A) || n == 0x2028 || n == 0x2029 || n == 0x202F ||
    n == 0x205F || n == 0x3000

/-- A list of characters without the white space at its two ends. -/
def trimmed (cs : List Char) : List Char :=
  ((cs.dropWhile isBlank).reverse.dropWhile isBlank).reverse

/-- A text without the white space at its two ends. -/
def trim (s : String) : String := String.ofList (trimmed s.toList)

/-- A text is blank when it holds white space only; the empty text is blank. -/
def isBlankText (s : String) : Bool := s.toList.all isBlank

end Text

namespace Json

/-- A value that is not worth sending: null, blank text, an empty array or an empty object. -/
def isBlank : Json → Bool
  | .null => true
  | .str text => Text.isBlankText text
  | .arr items => items.isEmpty
  | .obj fields => fields.isEmpty
  | .bool _ | .int _ | .float _ => false

mutual

/-- A value with every truth value in it as text. -/
def boolsAsText : Json → Json
  | .bool value => .str (FieldValue.boolText value)
  | .arr items => .arr (itemsBoolsAsText items)
  | .obj ⟨fields⟩ => .obj ⟨fieldsBoolsAsText fields⟩
  | value => value

/-- Items with every truth value in them as text. -/
def itemsBoolsAsText : List Json → List Json
  | [] => []
  | item :: rest => item.boolsAsText :: itemsBoolsAsText rest

/-- Fields with every truth value in them as text. -/
def fieldsBoolsAsText : List (String × Json) → List (String × Json)
  | [] => []
  | (key, value) :: rest => (key, value.boolsAsText) :: fieldsBoolsAsText rest

end

end Json

namespace Document

/-- The fields of a document as they are sent to an engine. -/
def publishedFields (d : Document) : JsonObject :=
  ((flatten d.toJson).filterValues fun value => !value.isBlank).mapValues Json.boolsAsText

/-- The field that holds the id of a document. -/
def idField : String := "id"

/-- The id of a document: a text without the white space around it, or a whole number. -/
def idText (d : Document) : String :=
  match d.get? idField with
  | some (.text value) => Text.trim value
  | some (.integer value) => Decimal.wholeText value
  | _ => ""

/-- The id of a document, which must not be blank. -/
def id (d : Document) : Except SearchError String :=
  if d.idText.isEmpty then
    .error (.indexing ("Document is missing a non-blank '" ++ idField ++ "' field"))
  else .ok d.idText

/-- A document that can be published, because it has an id. -/
def identified (d : Document) : Except SearchError Document := d.id.map fun _ => d

end Document
end SearchGateway
