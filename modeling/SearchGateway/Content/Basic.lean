import SearchGateway.Content.Source
import SearchGateway.Schema.Basic
import SearchGateway.Text.Printable

/-!
# Contents

The content of a type of objects says which fields the documents of these objects have on
an index.  A field is read from a property or computed from the object.  A structured
field nests the documents of other objects, and it names the types of the objects that it
can hold; no other field names types.
-/
namespace SearchGateway

/-- Where the value of a field comes from. -/
inductive Accessor where
  /-- The property of this name. -/
  | property (name : String)
  /-- A function of the object. -/
  | computed (compute : SourceObject → Slot)
deriving Inhabited

/-- An accessor in a message. -/
def Accessor.display : Accessor → String
  | .property name => "Property(" ++ Text.quoted name ++ ")"
  | .computed _ => "Computed(..)"

/-- What an accessor finds in an object. -/
def Accessor.read (accessor : Accessor) (o : SourceObject) : Slot :=
  match accessor with
  | .property name => o.read name
  | .computed compute => compute o

/-- A field of a content. -/
structure ContentField where
  accessor : Accessor
  type : FieldType
  /-- The types of the objects that a structured field can hold. -/
  sources : List String
deriving Inhabited

namespace ContentField

/-- A field that holds the value of a property. -/
def property (name : String) (type : FieldType) : ContentField := ⟨.property name, type, []⟩

/-- A field that holds a computed value. -/
def computed (compute : SourceObject → Slot) (type : FieldType) : ContentField :=
  ⟨.computed compute, type, []⟩

/-- A field that nests the document of the object that a property refers to. -/
def nested (name : String) (sources : List String) : ContentField :=
  ⟨.property name, .ofKind .struct, sources⟩

/-- Whether a field nests documents. -/
def isStruct (f : ContentField) : Bool := f.type.kind == .struct

/-- Fails unless exactly the structured fields name types. -/
def check (f : ContentField) : Except SearchError Unit :=
  match f.isStruct, f.sources.isEmpty with
  | true, true =>
    .error (.invalidField
      ("struct field " ++ f.accessor.display ++ " needs at least one source type"))
  | false, false =>
    .error (.invalidField
      (f.type.kind.tag ++ " field " ++ f.accessor.display ++ " cannot name source types"))
  | _, _ => .ok ()

end ContentField

/-- The fields that the documents of a type of objects have on an index. -/
structure Content where
  typeName : String
  index : String
  fields : Table ContentField
deriving Inhabited

namespace Content

/-- A content without fields. -/
def empty (typeName index : String) : Content := ⟨typeName, index, .empty⟩

/-- The content with one more field, if the field makes sense. -/
def withField (c : Content) (name : String) (f : ContentField) : Except SearchError Content :=
  f.check.map fun _ => { c with fields := c.fields.set name f }

end Content
end SearchGateway
