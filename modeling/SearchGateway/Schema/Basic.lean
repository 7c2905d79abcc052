import SearchGateway.FieldName
import SearchGateway.Schema.FieldType

/-!
# Schemas

A schema declares the fields of an index.  An entry is a field with a type or a nested
schema.  A path is followed segment by segment through the nested schemas, and the leaves of
a schema are its fields under their flat names.  Schemas are merged entry by entry: nested
schemas of one name are merged in turn, everywhere else the later declaration counts.

An index lives on one of two engines and has a schema.
-/
namespace SearchGateway

/-- What a schema declares under one name. -/
inductive SchemaEntry where
  | field (type : FieldType)
  | nested (schema : Table SchemaEntry)
deriving Inhabited

/-- Named declarations, in the order in which they were first made. -/
abbrev Schema := Table SchemaEntry

mutual

/-- The entry that results when a declaration follows an earlier one of the same name. -/
def SchemaEntry.after (entry : SchemaEntry) (earlier : Option SchemaEntry) : SchemaEntry :=
  match entry with
  | .field type => .field type
  | .nested ⟨rows⟩ =>
    match earlier with
    | some (.nested schema) => .nested (Schema.declareAll rows schema)
    | _ => .nested ⟨rows⟩

/-- Makes some declarations one after the other. -/
def Schema.declareAll (rows : List (String × SchemaEntry)) (schema : Schema) : Schema :=
  match rows with
  | [] => schema
  | (name, entry) :: rest =>
    Schema.declareAll rest (schema.set name (entry.after (schema.get? name)))

end

namespace Schema

/-- Makes one declaration. -/
def declare (schema : Schema) (name : String) (entry : SchemaEntry) : Schema :=
  schema.set name (entry.after (schema.get? name))

/-- Makes all the declarations of another schema. -/
def merge (schema other : Schema) : Schema := declareAll other.rows schema

/-- The entry at the end of a list of segments. -/
def resolveSegments? (schema : Schema) : List String → Option SchemaEntry
  | [] => none
  | [name] => schema.get? name
  | name :: rest =>
    match schema.get? name with
    | some (.nested inner) => resolveSegments? inner rest
    | _ => none

/-- The entry at the end of a path. -/
def resolve? (schema : Schema) (path : String) : Option SchemaEntry :=
  schema.resolveSegments? (FieldName.segments path)

/-- The type of the field at the end of a path. -/
def fieldType? (schema : Schema) (path : String) : Option FieldType :=
  match schema.resolve? path with
  | some (.field type) => some type
  | _ => none

/-- The kind of the field at the end of a path. -/
def fieldKind? (schema : Schema) (path : String) : Option FieldKind :=
  (schema.fieldType? path).map (·.kind)

end Schema

mutual

/-- The fields of an entry under their flat names. -/
def SchemaEntry.leaves (entry : SchemaEntry) (name : String) : List (String × FieldType) :=
  match entry with
  | .field type => [(name, type)]
  | .nested ⟨rows⟩ => Schema.rowLeaves rows (some name)

/-- The fields of some declarations inside the schema with the flat name `parent`. -/
def Schema.rowLeaves (rows : List (String × SchemaEntry)) (parent : Option String) :
    List (String × FieldType) :=
  match rows with
  | [] => []
  | (name, entry) :: rest =>
    entry.leaves (FieldName.below parent name) ++ Schema.rowLeaves rest parent

end

/-- All fields of a schema under their flat names, in the order of declaration. -/
def Schema.leaves (schema : Schema) : List (String × FieldType) :=
  rowLeaves schema.rows none

mutual

/-- Equality of entries. -/
def SchemaEntry.same : SchemaEntry → SchemaEntry → Bool
  | .field a, .field b => a.same b
  | .nested ⟨as⟩, .nested bs => as.length == bs.size && Schema.sameRows as bs
  | _, _ => false

/-- Whether a schema has equal entries at the names of the given rows. -/
def Schema.sameRows : List (String × SchemaEntry) → Schema → Bool
  | [], _ => true
  | (name, a) :: rest, other =>
    (match other.get? name with
      | some b => a.same b
      | none => false) && Schema.sameRows rest other

end

/-- Equality of schemas, without regard to the order of their declarations. -/
def Schema.same (a b : Schema) : Bool := a.size == b.size && sameRows a.rows b

/-- A search engine on which an index can live. -/
inductive Engine where
  | cloudSearch
  | elasticsearch
deriving DecidableEq, Repr, Inhabited

/-- The name of an engine. -/
def Engine.name : Engine → String
  | .cloudSearch => "cloudsearch"
  | .elasticsearch => "elasticsearch"

/-- A named index on an engine, with the schema of its documents. -/
structure SearchIndex where
  name : String
  engine : Engine
  schema : Schema
deriving Inhabited

end SearchGateway
