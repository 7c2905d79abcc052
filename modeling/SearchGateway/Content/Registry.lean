import SearchGateway.Content.Basic

/-!
# Registries

A registry knows the indexes and, for each index, the contents of the types of objects that
are published there.  The schema of an index can be derived from its contents: a structured
field is the merged schemas of the types that it names.  Types may name each other in
cycles, so a type is not entered again below itself; this is why the derivation ends.
-/
namespace SearchGateway

/-- The indexes that are known, and the contents of each index. -/
structure Registry where
  indexes : KeyMap SearchIndex
  /-- The contents by index and type. -/
  contents : KeyMap (KeyMap Content)
deriving Inhabited

/-- Removing a key that is there makes a map smaller. -/
theorem KeyMap.size_erase_lt {α : Type u} {m : KeyMap α} {key : String} {value : α}
    (h : m.get? key = some value) : (m.erase key).size < m.size := by
  obtain ⟨before, after, hentries, -⟩ := List.lookup_eq_some_iff.1 h
  have hmem : (key, value) ∈ m.entries := by simp [hentries]
  exact List.length_filter_lt_length_iff_exists.2 ⟨(key, value), hmem, by simp⟩

/-- The schema of the documents of a type, derived from the contents that are available.
Below a type that type is no longer available. -/
def Content.derivedSchema (available : KeyMap Content) (typeName : String) : Schema :=
  match _h : available.get? typeName with
  | none => .empty
  | some content =>
    content.fields.rows.foldl (fun schema (name, field) =>
      Schema.declare schema name <|
        if field.isStruct then
          .nested <| field.sources.foldl (fun nested source =>
            Schema.merge nested (derivedSchema (available.erase typeName) source)) .empty
        else .field field.type) .empty
termination_by available.size
decreasing_by exact KeyMap.size_erase_lt (by assumption)

namespace Registry

/-- A registry that knows nothing. -/
def empty : Registry := ⟨.empty, .empty⟩

/-- Makes an index known, in place of an earlier one of its name. -/
def register (r : Registry) (index : SearchIndex) : Registry :=
  { r with indexes := r.indexes.insert index.name index }

/-- The contents of an index, by type. -/
def contentsOf (r : Registry) (index : String) : KeyMap Content :=
  (r.contents.get? index).getD .empty

/-- Makes a content known, in place of an earlier one of its type and index. -/
def registerContent (r : Registry) (content : Content) : Registry :=
  { r with
    contents := r.contents.insert content.index
      ((r.contentsOf content.index).insert content.typeName content) }

/-- The content of a type on an index. -/
def content? (r : Registry) (typeName index : String) : Option Content :=
  (r.contentsOf index).get? typeName

/-- The content of a type on an index, which must be known. -/
def content (r : Registry) (typeName index : String) : Except SearchError Content :=
  match r.content? typeName index with
  | some content => .ok content
  | none => .error (.unknownContent typeName index)

/-- The index of a name. -/
def index? (r : Registry) (name : String) : Option SearchIndex := r.indexes.get? name

/-- The index of a name, which must be known. -/
def index (r : Registry) (name : String) : Except SearchError SearchIndex :=
  match r.index? name with
  | some index => .ok index
  | none => .error (.unknownIndex name)

/-- The schema of an index as it follows from its contents: the schemas of all types, merged
in the order of their names. -/
def derivedSchema (r : Registry) (name : String) : Schema :=
  (r.contentsOf name).keys.foldl (fun schema typeName =>
    Schema.merge schema (Content.derivedSchema (r.contentsOf name) typeName)) .empty

/-- The index of a name on an engine with the schema that follows from its contents, of which
there must be at least one. -/
def derivedIndex (r : Registry) (name : String) (engine : Engine) :
    Except SearchError SearchIndex :=
  if (r.contentsOf name).isEmpty then .error (.unknownIndex name)
  else .ok ⟨name, engine, r.derivedSchema name⟩

end Registry
end SearchGateway
