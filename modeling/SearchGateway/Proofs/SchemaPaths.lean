import Mathlib.Tactic.Lemma
import SearchGateway.Proofs.FlatNames
import SearchGateway.Proofs.Tables
import SearchGateway.Schema.Basic

/-!
# The fields of a schema and their paths

A field of a schema is reached by the names of the schemas around it and its own name.  Queries
write these names with dots between them and find the field again by cutting there; the leaves of
a schema carry them joined to a flat name.  Both are read off one list, the fields of the schema
with the names on the way to them (`leaves_eq_map_fields`, `mem_fields_iff_typeAt?`).

Every field that a path finds is therefore a leaf under the flat name of that path.  The converse
needs names without dots, and that two fields never share a flat name needs names that can be
joined and cut again (`nodup_names_leaves`).
-/
namespace SearchGateway

/-! ## Paths with dots -/

namespace FieldName

/-- The path that is written for some names. -/
def dotted (names : List String) : String := ".".intercalate names

lemma segments_ne_nil (path : String) : segments path ≠ [] := by
  rw [segments, Ne, List.map_eq_nil_iff]
  exact List.splitOnP_ne_nil _ _

/-- The characters of the segments are the pieces between the dots. -/
lemma map_toList_segments (path : String) :
    (segments path).map String.toList = path.toList.splitOn '.' := by
  simp [segments, Function.comp_def]

/-- Writing the segments of a path with dots between them gives the path back. -/
lemma dotted_segments (path : String) : dotted (segments path) = path := by
  have hchars : (dotted (segments path)).toList = path.toList := by
    rw [dotted, String.toList_intercalate, map_toList_segments]
    exact List.intercalate_splitOn '.'
  exact String.toList_inj.1 hchars

/-- Names without dots are found again after they were written as a path. -/
lemma segments_dotted {names : List String} (hne : names ≠ [])
    (hdots : ∀ name ∈ names, '.' ∉ name.toList) : segments (dotted names) = names := by
  have hcut : (dotted names).toList.splitOn '.' = names.map String.toList := by
    rw [dotted, String.toList_intercalate]
    refine List.splitOn_intercalate '.' ?_ (by simpa using hne)
    intro cs hcs
    obtain ⟨name, hname, rfl⟩ := List.mem_map.1 hcs
    exact hdots name hname
  rw [segments, hcut]
  simp [Function.comp_def]

lemma flatMap_dot_eq_intercalate (between cs : List Char) :
    (cs.flatMap fun c => if c = '.' then between else [c]) =
      between.intercalate (cs.splitOn '.') := by
  induction cs with
  | nil => simp
  | cons c cs ih =>
    obtain ⟨first, others, hcut⟩ :=
      List.exists_cons_of_ne_nil (List.splitOnP_ne_nil (· == '.') cs)
    change cs.splitOn '.' = first :: others at hcut
    rw [List.flatMap_cons, ih, hcut]
    by_cases hc : c = '.'
    · have hcons : (c :: cs).splitOn '.' = [] :: first :: others := by
        rw [List.splitOn, List.splitOnP_cons_eq_if_modifyHead, if_pos (by simpa using hc)]
        exact congrArg _ hcut
      rw [hcons, if_pos hc, List.intercalate_cons_cons]
      rfl
    · have hcons : (c :: cs).splitOn '.' = (c :: first) :: others := by
        rw [List.splitOn, List.splitOnP_cons_eq_if_modifyHead, if_neg (by simpa using hc)]
        change (cs.splitOn '.').modifyHead _ = _
        rw [hcut, List.modifyHead_cons]
      rw [hcons, if_neg hc]
      cases others <;> simp

/-- A delimiter for every dot: the flat name of a path joins its segments. -/
lemma ofPath_eq_joined_segments (path : String) : ofPath path = joined (segments path) := by
  have hchars : (ofPath path).toList = (joined (segments path)).toList := by
    rw [ofPath, String.toList_ofList, flatMap_dot_eq_intercalate, joined,
      String.toList_intercalate, map_toList_segments]
  exact String.toList_inj.1 hchars

end FieldName

/-! ## The fields of a schema -/

mutual

/-- The fields of an entry with the names on the way to them; a field is reached without any
further name. -/
def SchemaEntry.fields (entry : SchemaEntry) : List (List String × FieldType) :=
  match entry with
  | .field type => [([], type)]
  | .nested ⟨rows⟩ => Schema.rowFields rows

/-- The fields of some declarations with the names on the way to them. -/
def Schema.rowFields : List (String × SchemaEntry) → List (List String × FieldType)
  | [] => []
  | (name, entry) :: rest =>
    entry.fields.map (fun field => (name :: field.1, field.2)) ++ Schema.rowFields rest

end

namespace Schema

/-- The fields of a schema with the names on the way to them, in the order of declaration. -/
def fields (schema : Schema) : List (List String × FieldType) := rowFields schema.rows

/-- The type of the field that is reached by some names. -/
def typeAt? (schema : Schema) (names : List String) : Option FieldType :=
  match schema.resolveSegments? names with
  | some (.field type) => some type
  | _ => none

lemma fieldType?_eq_typeAt? (schema : Schema) (path : String) :
    schema.fieldType? path = schema.typeAt? (FieldName.segments path) := rfl

lemma typeAt?_nil (schema : Schema) : schema.typeAt? [] = none := rfl

lemma typeAt?_eq_some_iff {schema : Schema} {names : List String} {type : FieldType} :
    schema.typeAt? names = some type ↔ schema.resolveSegments? names = some (.field type) := by
  rw [typeAt?]
  rcases schema.resolveSegments? names with _ | declared | inner <;> simp

lemma resolveSegments?_cons (schema : Schema) (name : String) (rest : List String) :
    schema.resolveSegments? (name :: rest) =
      if rest = [] then schema.get? name
      else match schema.get? name with
        | some (.nested inner) => resolveSegments? inner rest
        | _ => none := by
  cases rest with
  | nil => rw [resolveSegments?, if_pos rfl]
  | cons next rest =>
    rw [resolveSegments?]
    · exact (if_neg (List.cons_ne_nil next rest)).symm
    · exact List.cons_ne_nil next rest

/-- What the first name leads to decides: a field must be the end of the way, and in a nested
schema the way goes on. -/
lemma typeAt?_cons (schema : Schema) (name : String) (rest : List String) :
    schema.typeAt? (name :: rest) =
      match schema.get? name with
      | some (.field type) => if rest = [] then some type else none
      | some (.nested inner) => typeAt? inner rest
      | none => none := by
  rw [typeAt?, resolveSegments?_cons]
  by_cases hrest : rest = []
  · subst hrest
    rcases schema.get? name with _ | type | inner <;> rfl
  · rw [if_neg hrest]
    rcases schema.get? name with _ | type | inner
    · rfl
    · exact (if_neg hrest).symm
    · rfl

/-- The schemas nested in a schema, itself among them. -/
inductive Nested : Schema → Schema → Prop
  | self (schema : Schema) : Nested schema schema
  | row {schema inner e : Schema} {name : String} (hmem : (name, .nested inner) ∈ schema.rows)
      (h : Nested inner e) : Nested schema e

/-- What holds of a schema and inside the schemas that it nests holds at every level. -/
lemma forall_nested_iff {P : Schema → Prop} {schema : Schema} :
    (∀ e, Nested schema e → P e) ↔
      P schema ∧ ∀ name inner, (name, .nested inner) ∈ schema.rows → ∀ e, Nested inner e → P e := by
  constructor
  · intro h
    exact ⟨h schema (.self schema), fun name inner hmem e he => h e (.row hmem he)⟩
  · rintro ⟨hself, hinner⟩ e he
    cases he with
    | self => exact hself
    | row hmem he => exact hinner _ _ hmem e he

/-- No name is declared twice, at any level. -/
def NamesDistinct (schema : Schema) : Prop := ∀ e, Nested schema e → e.Distinct

/-- No declared name has a dot in it, at any level. -/
def DotFree (schema : Schema) : Prop :=
  ∀ e, Nested schema e → ∀ name ∈ e.names, '.' ∉ name.toList

/-- The declared names can be joined and cut again: none has the delimiter, and none of a nested
schema ends with an underscore. -/
structure SeparableNames (schema : Schema) : Prop where
  noDelimiter : ∀ e, Nested schema e → ∀ name ∈ e.names, ¬ FieldName.HasDelimiter name
  noUnderscore : ∀ e, Nested schema e → ∀ name inner, (name, .nested inner) ∈ e.rows →
    ¬ FieldName.EndsWithUnderscore name

variable {schema inner : Schema} {name : String}

lemma NamesDistinct.distinct (h : schema.NamesDistinct) : schema.Distinct := h schema (.self schema)

lemma NamesDistinct.nested (h : schema.NamesDistinct) (hmem : (name, .nested inner) ∈ schema.rows) :
    inner.NamesDistinct :=
  fun e he => h e (.row hmem he)

lemma DotFree.nested (h : schema.DotFree) (hmem : (name, .nested inner) ∈ schema.rows) :
    inner.DotFree :=
  fun e he => h e (.row hmem he)

lemma DotFree.not_mem {entry : SchemaEntry} (h : schema.DotFree)
    (hmem : (name, entry) ∈ schema.rows) : '.' ∉ name.toList :=
  h schema (.self schema) name (List.mem_map_of_mem hmem)

lemma SeparableNames.nested (h : schema.SeparableNames)
    (hmem : (name, .nested inner) ∈ schema.rows) : inner.SeparableNames :=
  ⟨fun e he => h.noDelimiter e (.row hmem he), fun e he => h.noUnderscore e (.row hmem he)⟩

lemma SeparableNames.not_hasDelimiter {entry : SchemaEntry} (h : schema.SeparableNames)
    (hmem : (name, entry) ∈ schema.rows) : ¬ FieldName.HasDelimiter name :=
  h.noDelimiter schema (.self schema) name (List.mem_map_of_mem hmem)

/-! ### Membership -/

lemma mem_rowFields {rows : List (String × SchemaEntry)} {field : List String × FieldType} :
    field ∈ rowFields rows ↔
      ∃ row ∈ rows, ∃ inner ∈ row.2.fields, (row.1 :: inner.1, inner.2) = field := by
  induction rows with
  | nil => simp [rowFields]
  | cons row rest ih => simp [rowFields, ih]

lemma not_mem_fields_nil {type : FieldType} : ([], type) ∉ schema.fields := by
  intro h
  obtain ⟨row, -, inner, -, heq⟩ := mem_rowFields.1 h
  exact absurd heq (by simp)

/-- A field stands in the schema itself or in a schema that is nested in it. -/
lemma mem_fields_cons {rest : List String} {type : FieldType} :
    (name :: rest, type) ∈ schema.fields ↔
      (rest = [] ∧ (name, .field type) ∈ schema.rows) ∨
        ∃ inner : Schema, (name, .nested inner) ∈ schema.rows ∧ (rest, type) ∈ inner.fields := by
  rw [fields, mem_rowFields]
  constructor
  · rintro ⟨⟨other, entry⟩, hrow, ⟨path, type'⟩, hfield, heq⟩
    simp only [Prod.mk.injEq, List.cons.injEq] at heq
    obtain ⟨⟨rfl, rfl⟩, rfl⟩ := heq
    cases entry with
    | field declared =>
      rw [SchemaEntry.fields, List.mem_singleton, Prod.mk.injEq] at hfield
      obtain ⟨rfl, rfl⟩ := hfield
      exact .inl ⟨rfl, hrow⟩
    | nested inner => exact .inr ⟨inner, hrow, hfield⟩
  · rintro (⟨rfl, hrow⟩ | ⟨inner, hrow, hfield⟩)
    · exact ⟨_, hrow, ([], type), List.mem_singleton_self _, rfl⟩
    · exact ⟨_, hrow, (rest, type), hfield, rfl⟩

/-- What is found by some names is a field. -/
lemma mem_fields_of_typeAt? {names : List String} {type : FieldType}
    (h : schema.typeAt? names = some type) : (names, type) ∈ schema.fields := by
  induction names generalizing schema with
  | nil => exact absurd h (by simp [typeAt?_nil])
  | cons name rest ih =>
    rw [typeAt?_cons] at h
    rw [mem_fields_cons]
    rcases hget : schema.get? name with _ | declared | inner
    · simp [hget] at h
    · simp only [hget, Option.ite_none_right_eq_some, Option.some.injEq] at h
      obtain ⟨rfl, rfl⟩ := h
      exact .inl ⟨rfl, mem_of_lookup_eq_some hget⟩
    · simp only [hget] at h
      exact .inr ⟨inner, mem_of_lookup_eq_some hget, ih h⟩

/-- Where no name is declared twice, the names on the way to a field find it. -/
lemma mem_fields_iff_typeAt? (hs : schema.NamesDistinct) {names : List String} {type : FieldType} :
    (names, type) ∈ schema.fields ↔ schema.typeAt? names = some type := by
  refine ⟨fun h => ?_, mem_fields_of_typeAt?⟩
  induction names generalizing schema with
  | nil => exact absurd h not_mem_fields_nil
  | cons name rest ih =>
    rw [typeAt?_cons]
    rcases mem_fields_cons.1 h with ⟨rfl, hrow⟩ | ⟨inner, hrow, hfield⟩
    · have hget : schema.get? name = some (.field type) := lookup_eq_some_of_mem hs.distinct hrow
      simp [hget]
    · have hget : schema.get? name = some (.nested inner) := lookup_eq_some_of_mem hs.distinct hrow
      simp only [hget]
      exact ih (hs.nested hrow) hfield

/-! ### Leaves -/

end Schema

mutual

theorem SchemaEntry.leaves_eq_map_fields (entry : SchemaEntry) (name : String) :
    entry.leaves name =
      entry.fields.map fun field => (FieldName.joined (name :: field.1), field.2) := by
  match entry with
  | .field type =>
    rw [SchemaEntry.leaves, SchemaEntry.fields]
    simp [FieldName.joined]
  | .nested ⟨rows⟩ =>
    rw [SchemaEntry.leaves, SchemaEntry.fields, Schema.rowLeaves_eq_map_rowFields]
    rfl

theorem Schema.rowLeaves_eq_map_rowFields (rows : List (String × SchemaEntry))
    (parent : Option String) :
    Schema.rowLeaves rows parent =
      (Schema.rowFields rows).map fun field =>
        (FieldName.joined (parent.toList ++ field.1), field.2) := by
  match rows with
  | [] => rfl
  | (name, entry) :: rest =>
    rw [Schema.rowLeaves, Schema.rowFields, Schema.rowLeaves_eq_map_rowFields rest,
      SchemaEntry.leaves_eq_map_fields entry, List.map_append, List.map_map]
    simp only [FieldName.joined_below, Function.comp_def]

end

/-- A schema in which no name is declared twice, at any level. -/
structure DistinctSchema where
  schema : Schema
  namesDistinct : schema.NamesDistinct

namespace Schema

/-- The leaves of a schema are its fields under their flat names. -/
theorem leaves_eq_map_fields (schema : Schema) :
    schema.leaves = schema.fields.map fun field => (FieldName.joined field.1, field.2) :=
  rowLeaves_eq_map_rowFields schema.rows none

/-- A field that a path finds is a leaf under the flat name of the path. -/
theorem mem_leaves_of_fieldType? {schema : Schema} {path : String} {type : FieldType}
    (h : schema.fieldType? path = some type) : (FieldName.ofPath path, type) ∈ schema.leaves := by
  have hfield : (FieldName.segments path, type) ∈ schema.fields := mem_fields_of_typeAt? h
  rw [leaves_eq_map_fields, FieldName.ofPath_eq_joined_segments]
  exact List.mem_map.2 ⟨_, hfield, rfl⟩

variable {schema : Schema} {names : List String} {type : FieldType}

lemma DotFree.not_mem_of_mem_fields (h : schema.DotFree) (hfield : (names, type) ∈ schema.fields) :
    ∀ name ∈ names, '.' ∉ name.toList := by
  induction names generalizing schema with
  | nil => simp
  | cons name rest ih =>
    rcases mem_fields_cons.1 hfield with ⟨rfl, hrow⟩ | ⟨inner, hrow, hrest⟩
    · exact List.forall_mem_singleton.2 (h.not_mem hrow)
    · exact List.forall_mem_cons.2 ⟨h.not_mem hrow, ih (h.nested hrow) hrest⟩

lemma SeparableNames.separable_of_mem_fields (h : schema.SeparableNames)
    (hfield : (names, type) ∈ schema.fields) : FieldName.Separable names := by
  induction names generalizing schema with
  | nil => trivial
  | cons name rest ih =>
    rcases mem_fields_cons.1 hfield with ⟨rfl, hrow⟩ | ⟨inner, hrow, hrest⟩
    · exact h.not_hasDelimiter hrow
    · have hseparable := ih (h.nested hrow) hrest
      -- a nested schema has no field without a name, so the path goes on
      cases rest with
      | nil => exact h.not_hasDelimiter hrow
      | cons next rest =>
        exact ⟨h.not_hasDelimiter hrow, h.noUnderscore schema (.self schema) name inner hrow,
          hseparable⟩

/-- Without dots in the names every leaf is the field that some path finds. -/
theorem exists_path_of_mem_leaves (s : DistinctSchema) (hdots : s.schema.DotFree)
    {leaf : String × FieldType} (h : leaf ∈ s.schema.leaves) :
    ∃ path, FieldName.ofPath path = leaf.1 ∧ s.schema.fieldType? path = some leaf.2 := by
  rw [leaves_eq_map_fields] at h
  obtain ⟨⟨names, type⟩, hfield, rfl⟩ := List.mem_map.1 h
  have hne : names ≠ [] := by
    rintro rfl
    exact not_mem_fields_nil hfield
  have hsegments := FieldName.segments_dotted hne (hdots.not_mem_of_mem_fields hfield)
  refine ⟨FieldName.dotted names, ?_, ?_⟩
  · rw [FieldName.ofPath_eq_joined_segments, hsegments]
  · rw [fieldType?_eq_typeAt?, hsegments]
    exact (mem_fields_iff_typeAt? s.namesDistinct).1 hfield

/-- Two paths to fields that have one flat name are the same path. -/
theorem path_eq_of_ofPath_eq (hsep : schema.SeparableNames) {path path' : String}
    (h : (schema.fieldType? path).isSome) (h' : (schema.fieldType? path').isSome)
    (heq : FieldName.ofPath path = FieldName.ofPath path') : path = path' := by
  obtain ⟨type, htype⟩ := Option.isSome_iff_exists.1 h
  obtain ⟨type', htype'⟩ := Option.isSome_iff_exists.1 h'
  rw [FieldName.ofPath_eq_joined_segments, FieldName.ofPath_eq_joined_segments] at heq
  have hsegments : FieldName.segments path = FieldName.segments path' :=
    FieldName.joined_injective (FieldName.segments_ne_nil path) (FieldName.segments_ne_nil path')
      (hsep.separable_of_mem_fields (mem_fields_of_typeAt? htype))
      (hsep.separable_of_mem_fields (mem_fields_of_typeAt? htype')) heq
  rw [← FieldName.dotted_segments path, hsegments, FieldName.dotted_segments]

end Schema

mutual

theorem SchemaEntry.nodup_fields (entry : SchemaEntry)
    (h : ∀ inner, entry = .nested inner → Schema.NamesDistinct inner) :
    (entry.fields.map Prod.fst).Nodup := by
  match entry with
  | .field type =>
    rw [SchemaEntry.fields]
    exact List.nodup_singleton _
  | .nested ⟨rows⟩ =>
    rw [SchemaEntry.fields]
    have hinner := h ⟨rows⟩ rfl
    exact Schema.nodup_rowFields rows hinner.distinct fun name inner hmem => hinner.nested hmem

theorem Schema.nodup_rowFields (rows : List (String × SchemaEntry))
    (hnames : (rows.map Prod.fst).Nodup)
    (h : ∀ name inner, (name, .nested inner) ∈ rows → Schema.NamesDistinct inner) :
    ((Schema.rowFields rows).map Prod.fst).Nodup := by
  match rows with
  | [] => exact List.nodup_nil
  | (name, entry) :: rest =>
    rw [List.map_cons, List.nodup_cons] at hnames
    have hentry := SchemaEntry.nodup_fields entry (by
      rintro inner rfl
      exact h name inner List.mem_cons_self)
    have hrest := Schema.nodup_rowFields rest hnames.2 fun other inner hmem =>
      h other inner (List.mem_cons_of_mem _ hmem)
    rw [Schema.rowFields, List.map_append, List.map_map, List.nodup_append]
    refine ⟨?_, hrest, ?_⟩
    · have hcons : Prod.fst ∘ (fun field : List String × FieldType => (name :: field.1, field.2)) =
          List.cons name ∘ Prod.fst := rfl
      rw [hcons, ← List.map_map]
      exact hentry.map (List.cons_injective)
    · -- the paths through other declarations begin with another name
      intro path hpath path' hpath' heq
      obtain ⟨field, -, rfl⟩ := List.mem_map.1 hpath
      obtain ⟨field', hfield', rfl⟩ := List.mem_map.1 hpath'
      obtain ⟨row, hrow, inner, -, rfl⟩ := Schema.mem_rowFields.1 hfield'
      have hname : name = row.1 := List.head_eq_of_cons_eq heq
      exact hnames.1 (List.mem_map.2 ⟨row, hrow, hname.symm⟩)

end

namespace Schema

/-- Two leaves never share a flat name. -/
theorem nodup_names_leaves (s : DistinctSchema) (hsep : s.schema.SeparableNames) :
    (s.schema.leaves.map Prod.fst).Nodup := by
  have hpaths : (s.schema.fields.map Prod.fst).Nodup :=
    nodup_rowFields s.schema.rows s.namesDistinct.distinct fun name inner hmem =>
      s.namesDistinct.nested hmem
  have hnames : s.schema.leaves.map Prod.fst =
      (s.schema.fields.map Prod.fst).map FieldName.joined := by
    rw [leaves_eq_map_fields, List.map_map, List.map_map]
    rfl
  rw [hnames]
  refine hpaths.map_on fun names hmem names' hmem' heq => ?_
  obtain ⟨⟨names, type⟩, hfield, rfl⟩ := List.mem_map.1 hmem
  obtain ⟨⟨names', type'⟩, hfield', rfl⟩ := List.mem_map.1 hmem'
  have hne : ∀ {names type}, (names, type) ∈ s.schema.fields → names ≠ [] := by
    rintro names type hmem rfl
    exact not_mem_fields_nil hmem
  exact FieldName.joined_injective (hne hfield) (hne hfield') (hsep.separable_of_mem_fields hfield)
    (hsep.separable_of_mem_fields hfield') heq

end Schema
end SearchGateway
