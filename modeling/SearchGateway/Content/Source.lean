import SearchGateway.Document.Value
import SearchGateway.Error

/-!
# Source objects

The objects of an application from which documents are made.  An object has an identity, a
type and properties; a property holds a value or a reference to another object.  Most
objects leave it to the gateway to make their document.  An object may also answer for itself:
what it answers on an index is up to the application, which may have a document, none, or an
error of its own.  Such an answer does not depend on which other objects are being read.
-/
namespace SearchGateway

/-- Where the document of an object comes from. -/
inductive DocumentSource where
  /-- The gateway makes the document from the content of the type of the object. -/
  | extracted
  /-- The application answers, in its own way on each index. -/
  | own (answer : (index : String) → Except SearchError (Option Document))
deriving Inhabited

/-- No document on any index. -/
def DocumentSource.hidden : DocumentSource := .own fun _ => .ok none

/-- The same document on all indexes. -/
def DocumentSource.given (document : Document) : DocumentSource := .own fun _ => .ok (some document)

/-- An object of an application. -/
structure SourceObject where
  identity : String
  typeName : String
  /-- The properties that hold values. -/
  values : Table FieldValue
  /-- The properties that refer to other objects, by the names of these objects. -/
  references : Table String
  source : DocumentSource
deriving Inhabited

/-- What a property of an object holds. -/
inductive Slot where
  | absent
  | value (value : FieldValue)
  /-- A reference to the object of this name. -/
  | object (name : String)
deriving Inhabited

/-- What a property of an object holds; references hide values. -/
def SourceObject.read (o : SourceObject) (property : String) : Slot :=
  match o.references.get? property with
  | some name => .object name
  | none =>
    match o.values.get? property with
    | some value => .value value
    | none => .absent

end SearchGateway
