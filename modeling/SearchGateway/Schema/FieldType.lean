import SearchGateway.Schema.FieldKind

/-!
# Field types

A field type is a kind together with named options, most of them hints for an engine that
can be switched on and off.
-/
namespace SearchGateway

/-- The declared type of a field. -/
structure FieldType where
  kind : FieldKind
  options : KeyMap Json
deriving Inhabited

namespace FieldType

/-- A type without options. -/
def ofKind (kind : FieldKind) : FieldType := ⟨kind, .empty⟩

/-- The type with one more option. -/
def withOption (t : FieldType) (key : String) (value : Json) : FieldType :=
  { t with options := t.options.insert key value }

/-- Whether a hint is switched on or off, if the type says so. -/
def flag? (t : FieldType) (key : String) : Option Bool := (t.options.get? key).bind Json.bool?

/-- Equality of types, options included. -/
def same (a b : FieldType) : Bool := a.kind == b.kind && Json.same (.obj a.options) (.obj b.options)

end FieldType
end SearchGateway
