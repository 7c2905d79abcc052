import Mathlib.Tactic.Lemma
import SearchGateway.CloudSearch.IndexField
import SearchGateway.Elasticsearch.Mapping
import SearchGateway.Proofs.ReadBack
import SearchGateway.Proofs.SchemaPaths

/-!
# One name for a field

A field has a name in four places: queries name it by a path, the schema lists it as a leaf, the
engines define it, and documents are published with it.  The four agree (`names_agree`).  What a
path finds is a leaf under the flat name of the path, each leaf that holds values of its own is
defined once on either engine, and what a document holds at the end of the path is published under
that name.
-/
namespace SearchGateway

/-- A field of its own has a definition; a structured field has none. -/
def FieldType.isDefined (type : FieldType) : Bool := type.kind != .struct

/-- The names of the leaves that are fields of their own. -/
def Schema.definedLeaves (schema : Schema) : List String :=
  (schema.leaves.filter fun leaf => leaf.2.isDefined).map Prod.fst

lemma Schema.mem_definedLeaves {schema : Schema} {name : String} {type : FieldType}
    (h : (name, type) ∈ schema.leaves) (hdefined : type.isDefined = true) :
    name ∈ schema.definedLeaves :=
  List.mem_map.2 ⟨(name, type), List.mem_filter.2 ⟨h, hdefined⟩, rfl⟩

lemma Schema.nodup_definedLeaves {schema : Schema} (h : (schema.leaves.map Prod.fst).Nodup) :
    schema.definedLeaves.Nodup :=
  h.sublist (List.filter_sublist.map Prod.fst)

/-! ## Definitions of CloudSearch -/

namespace CloudSearch

/-- The name of the field that is defined. -/
def definedName? (definition : Json) : Option String :=
  (definition.get? "IndexFieldName").bind Json.text?

lemma fieldDefinition?_isSome (name : String) (type : FieldType) :
    (fieldDefinition? name type).isSome = type.isDefined := by
  obtain ⟨kind, options⟩ := type
  cases kind <;> rfl

lemma definedName?_of_fieldDefinition? {name : String} {type : FieldType} {definition : Json}
    (h : fieldDefinition? name type = some definition) : definedName? definition = some name := by
  obtain ⟨⟨typeName, optionsKey⟩, hnames, rfl⟩ := Option.map_eq_some_iff.1 h
  have hkey : "IndexFieldName" ≠ optionsKey := by
    rintro rfl
    revert hnames
    cases type.kind <;> simp [fieldTypeNames?]
  -- what is set after the name leaves it in place
  by_cases hempty : (fieldOptions type).isEmpty <;>
    simp [definedName?, Json.ofFields, Json.get?, Json.fields?, Json.text?, KeyMap.ofList, hempty,
      hkey]

/-- There is one definition for each leaf that is a field of its own. -/
theorem map_definedName?_fieldDefinitions (schema : Schema) :
    (fieldDefinitions schema).map definedName? = schema.definedLeaves.map some := by
  rw [fieldDefinitions, Schema.definedLeaves]
  induction schema.leaves with
  | nil => rfl
  | cons leaf rest ih =>
    obtain ⟨name, type⟩ := leaf
    have hdefined := fieldDefinition?_isSome name type
    rcases hdefinition : fieldDefinition? name type with _ | definition
    · rw [hdefinition] at hdefined
      simpa [hdefinition, ← hdefined] using ih
    · rw [hdefinition] at hdefined
      simpa [hdefinition, ← hdefined, definedName?_of_fieldDefinition? hdefinition] using ih

end CloudSearch

/-! ## The mapping of Elasticsearch -/

namespace Elasticsearch

/-- The names of the fields that a mapping defines. -/
def mappedNames (mapping : Json) : List String :=
  ((mapping.get? "properties").bind Json.fields?).elim [] KeyMap.keys

lemma mappingType?_isSome (type : FieldType) : (mappingType? type).isSome = type.isDefined := by
  obtain ⟨kind, options⟩ := type
  cases kind
  case text | textArray =>
    rw [mappingType?]
    dsimp only
    split <;> rfl
  all_goals rfl

/-- The fields that are set in a mapping, one for each leaf that is a field of its own. -/
lemma map_fst_typedLeaves (leaves : List (String × FieldType)) :
    (leaves.filterMap fun leaf => (mappingType? leaf.2).map fun typeName =>
        (leaf.1, Json.ofFields [("type", .str typeName)])).map Prod.fst =
      (leaves.filter fun leaf => leaf.2.isDefined).map Prod.fst := by
  induction leaves with
  | nil => rfl
  | cons leaf rest ih =>
    have hdefined := mappingType?_isSome leaf.2
    rcases htype : mappingType? leaf.2 with _ | typeName
    · rw [htype] at hdefined
      simpa [htype, ← hdefined] using ih
    · rw [htype] at hdefined
      simpa [htype, ← hdefined] using ih

/-- The mapping defines every leaf that is a field of its own. -/
theorem mem_mappedNames_mapping {schema : Schema} {name : String}
    (h : name ∈ schema.definedLeaves) :
    name ∈ mappedNames (mapping schema) := by
  show name ∈ (properties schema).keys
  rw [properties, KeyMap.ofList_eq_insertAll, KeyMap.mem_keys_insertAll, map_fst_typedLeaves]
  exact .inl h

/-- If no two leaves have one name, the mapping defines each that is a field of its own, and
nothing else. -/
theorem mappedNames_mapping_perm {schema : Schema} (h : (schema.leaves.map Prod.fst).Nodup) :
    (mappedNames (mapping schema)).Perm schema.definedLeaves := by
  have hnodup := Schema.nodup_definedLeaves h
  rw [Schema.definedLeaves, ← map_fst_typedLeaves] at hnodup
  have hperm := (KeyMap.ofList_perm hnodup).map Prod.fst
  rw [map_fst_typedLeaves] at hperm
  exact hperm

end Elasticsearch

/-! ## Published documents -/

namespace Document

/-- The value that is found by following names into nested documents. -/
def valueAt? (d : Document) : List String → Option FieldValue
  | [] => none
  | [name] => d.get? name
  | name :: rest =>
    match d.get? name with
    | some (.nested inner) => valueAt? inner rest
    | _ => none

/-- No name stands twice in a document or in a document nested in it; lists are not entered. -/
def NamesDistinct (d : Document) : Prop := ∀ e, Nested d e → e.Distinct

variable {d : Document} {name : String} {value : FieldValue}

lemma NamesDistinct.distinct (h : NamesDistinct d) : d.Distinct := h d (.self d)

lemma NamesDistinct.nested {inner : Document} (h : NamesDistinct d)
    (hmem : (name, .nested inner) ∈ d.rows) : NamesDistinct inner :=
  fun e he => h e (.row hmem he)

/-- The names inside a document are distinct when they are in each of its rows. -/
lemma namesDistinct_of_rows (h : d.Distinct)
    (hnested : ∀ name inner, (name, .nested inner) ∈ d.rows → NamesDistinct inner) :
    NamesDistinct d := by
  intro e he
  cases he with
  | self => exact h
  | row hmem he => exact hnested _ _ hmem e he

end Document

/-- A document in which no name stands twice; the documents nested in it are such as well. -/
structure DistinctDocument where
  document : Document
  namesDistinct : document.NamesDistinct

namespace DistinctDocument

/-- The document without fields. -/
def empty : DistinctDocument where
  document := .empty
  namesDistinct := Document.namesDistinct_of_rows Table.distinct_empty (by simp [Table.empty])

/-- Sets the value of a name; if it is a document, no name stands twice in it either. -/
def set (d : DistinctDocument) (name : String) (value : FieldValue)
    (h : ∀ inner, value = .nested inner → Document.NamesDistinct inner) : DistinctDocument where
  document := d.document.set name value
  namesDistinct := by
    refine Document.namesDistinct_of_rows (d.namesDistinct.distinct.set name value) ?_
    intro name' inner hrow
    rcases Table.mem_rows_set hrow with heq | hold
    · exact h inner (congrArg Prod.snd heq).symm
    · exact d.namesDistinct.nested hold

end DistinctDocument

namespace Document

variable {d : Document} {name : String} {value : FieldValue}

lemma get?_rowsToJson {rows : List (String × FieldValue)} (hnames : (rows.map Prod.fst).Nodup)
    (fields : JsonObject) (name : String) :
    (FieldValue.rowsToJson rows fields).get? name =
      ((rows.lookup name).map FieldValue.toJson).or (fields.get? name) := by
  induction rows generalizing fields with
  | nil => rfl
  | cons row rest ih =>
    obtain ⟨other, value⟩ := row
    rw [List.map_cons, List.nodup_cons] at hnames
    rw [FieldValue.rowsToJson, ih hnames.2, KeyMap.get?_insert, lookup_cons_eq_ite]
    by_cases hname : name = other
    · -- the name does not come again, so its value stays
      subst hname
      simp [lookup_eq_none_of_not_mem hnames.1]
    · simp [hname]

lemma get?_toJson (hd : d.Distinct) (name : String) :
    d.toJson.get? name = (d.get? name).map FieldValue.toJson := by
  rw [toJson, get?_rowsToJson hd]
  simp [Table.get?]

lemma isObject_toJson_eq_false (h : ∀ inner, value ≠ .nested inner) :
    value.toJson.isObject = false := by
  cases hjson : value.toJson with
  | obj fields =>
    obtain ⟨inner, rfl, -⟩ := FieldValue.eq_nested_of_toJson_eq_obj hjson
    exact absurd rfl (h inner)
  | _ => rfl

/-- What is found by some names and is no document is a leaf. -/
lemma mem_fieldLeaves_of_valueAt? {names : List String} (hd : NamesDistinct d)
    (h : valueAt? d names = some value) (hplain : ∀ inner, value ≠ .nested inner) :
    (names, value.toJson) ∈ fieldLeaves d.toJson.entries := by
  induction names generalizing d with
  | nil => exact absurd h (by simp [valueAt?])
  | cons name rest ih =>
    -- the first name leads to an entry of the object
    have hentry : ∀ {found : FieldValue}, d.get? name = some found →
        (name, found.toJson) ∈ d.toJson.entries := by
      intro found hfound
      refine KeyMap.mem_of_get?_eq_some ?_
      rw [get?_toJson hd.distinct, hfound, Option.map_some]
    rw [mem_fieldLeaves]
    cases rest with
    | nil =>
      refine ⟨_, hentry h, ([], value.toJson), ?_, rfl⟩
      rw [leaves_of_isObject_eq_false (isObject_toJson_eq_false hplain)]
      exact List.mem_singleton_self _
    | cons next rest =>
      rw [valueAt?] at h
      · split at h
        · next inner hinner =>
          have hrest := ih (hd.nested (mem_of_lookup_eq_some hinner)) h
          refine ⟨_, hentry hinner, (next :: rest, value.toJson), ?_, rfl⟩
          exact hrest
        · exact absurd h (by simp)
      · exact List.cons_ne_nil next rest

/-- Where the flat names of the leaves are different, flattening keeps every leaf. -/
lemma get?_flatten {fields : JsonObject}
    (hnodup : (((fieldLeaves fields.entries).map named).map Prod.fst).Nodup)
    {leaf : List String × Json} (hleaf : leaf ∈ fieldLeaves fields.entries) :
    (flatten fields).get? (FieldName.joined leaf.1) = some leaf.2 := by
  have hmem : named leaf ∈ (flatten fields).entries := by
    rw [flatten_eq_ofList]
    exact (KeyMap.ofList_perm hnodup).mem_iff.2 (List.mem_map_of_mem hleaf)
  exact lookup_eq_some_of_mem (nodup_keys_flatten fields) hmem

/-- A value that is found by some names and is neither a document nor blank is published under
the flat name that the names are joined to. -/
theorem get?_publishedFields (d : DistinctDocument) (hsep : SeparableNames d.document)
    {names : List String} (h : valueAt? d.document names = some value)
    (hplain : ∀ inner, value ≠ .nested inner) (hblank : value.toJson.isBlank = false) :
    d.document.publishedFields.get? (FieldName.joined names) = some value.toJson.boolsAsText := by
  have hleaf := mem_fieldLeaves_of_valueAt? d.namesDistinct h hplain
  have hnodup : (((fieldLeaves d.document.toJson.entries).map named).map Prod.fst).Nodup :=
    nodup_names_of_separableKeys d.document.orderedJson hsep.separableKeys
  rw [publishedFields_eq, KeyMap.get?_filterMapValues _ (nodup_keys_flatten _),
    get?_flatten hnodup hleaf, Option.bind_some, hblank]
  rfl

end Document

/-! ## The four names -/

/-- **Paths, leaves, definitions and published fields have the same names.**  A field that a path
finds is a leaf under the flat name of the path.  Where no name has a dot in it, every leaf is
found by a path.  Where besides the names can be joined and cut again, leaves have different names,
one path only leads to each, and both engines define the same fields, each once.  And the value
that a document with such names holds at the end of a path is published under the flat name of the
path. -/
theorem names_agree (s : DistinctSchema) :
    (∀ path type, s.schema.fieldType? path = some type →
      (FieldName.ofPath path, type) ∈ s.schema.leaves) ∧
    (s.schema.DotFree → ∀ name type, (name, type) ∈ s.schema.leaves →
      ∃ path, FieldName.ofPath path = name ∧ s.schema.fieldType? path = some type) ∧
    (s.schema.DotFree → s.schema.SeparableNames →
      (s.schema.leaves.map Prod.fst).Nodup ∧
      (∀ name type, (name, type) ∈ s.schema.leaves →
        ∃ path, FieldName.ofPath path = name ∧ s.schema.fieldType? path = some type ∧
          ∀ other, FieldName.ofPath other = name → (s.schema.fieldType? other).isSome →
            other = path) ∧
      s.schema.definedLeaves.Nodup ∧
      (CloudSearch.fieldDefinitions s.schema).map CloudSearch.definedName? =
        s.schema.definedLeaves.map some ∧
      (Elasticsearch.mappedNames (Elasticsearch.mapping s.schema)).Perm s.schema.definedLeaves) ∧
    ∀ d : DistinctDocument, Document.SeparableNames d.document →
      ∀ path value, Document.valueAt? d.document (FieldName.segments path) = some value →
        (∀ inner, value ≠ .nested inner) → value.toJson.isBlank = false →
        d.document.publishedFields.get? (FieldName.ofPath path) =
          some value.toJson.boolsAsText := by
  refine ⟨fun path type => Schema.mem_leaves_of_fieldType?, fun hdots name type hleaf => ?_,
    fun hdots hsep => ⟨?_, fun name type hleaf => ?_, ?_⟩, ?_⟩
  · exact Schema.exists_path_of_mem_leaves s hdots hleaf
  · exact Schema.nodup_names_leaves s hsep
  · obtain ⟨path, hname, htype⟩ := Schema.exists_path_of_mem_leaves s hdots hleaf
    refine ⟨path, hname, htype, fun other hother hsome => ?_⟩
    exact Schema.path_eq_of_ofPath_eq hsep hsome (by simp [htype]) (hother.trans hname.symm)
  · have hnodup := Schema.nodup_names_leaves s hsep
    exact ⟨Schema.nodup_definedLeaves hnodup,
      CloudSearch.map_definedName?_fieldDefinitions s.schema,
      Elasticsearch.mappedNames_mapping_perm hnodup⟩
  · intro d hsep path value hvalue hplain hblank
    rw [FieldName.ofPath_eq_joined_segments]
    exact Document.get?_publishedFields d hsep hvalue hplain hblank

/-- Names that begin and end with underscores, and a structured field without a schema. -/
theorem names_agree_of_underscores :
    let author : Schema :=
      ⟨[("name_", .field (.ofKind .string)), ("home", .field (.ofKind .struct))]⟩
    let schema : Schema := ⟨[("_id", .field (.ofKind .integer)), ("author", .nested author)]⟩
    let d : Document := ⟨[("author", .nested ⟨[("name_", .text "Ann")]⟩)]⟩
    schema.NamesDistinct ∧ schema.DotFree ∧ schema.SeparableNames ∧
      schema.definedLeaves = ["_id", "author__name_"] ∧
      (Elasticsearch.mappedNames (Elasticsearch.mapping schema)).Perm ["_id", "author__name_"] ∧
      d.publishedFields.get? "author__name_" = some (.str "Ann") := by
  intro author schema d
  have hflat : ∀ {P : Schema → Prop}, P author → ∀ e, author.Nested e → P e := by
    intro P h
    refine Schema.forall_nested_iff.2 ⟨h, fun name inner hmem => ?_⟩
    simp [author] at hmem
  have hlevels : ∀ {P : Schema → Prop}, P schema → P author → ∀ e, schema.Nested e → P e := by
    intro P h hauthor
    refine Schema.forall_nested_iff.2 ⟨h, fun name inner hmem => ?_⟩
    obtain ⟨rfl, rfl⟩ : name = "author" ∧ inner = author := by simpa [schema] using hmem
    exact hflat hauthor
  have hdistinct : schema.NamesDistinct := hlevels (by decide) (by decide)
  have hdots : schema.DotFree := hlevels (by decide) (by decide)
  have hsep : schema.SeparableNames := by
    refine ⟨hlevels (by decide +kernel) (by decide +kernel), hlevels ?_ ?_⟩
    · intro name inner hmem
      obtain ⟨rfl, -⟩ : name = "author" ∧ inner = author := by simpa [schema] using hmem
      decide +kernel
    · intro name inner hmem
      simp [author] at hmem
  have hann : Document.NamesDistinct ⟨[("name_", .text "Ann")]⟩ :=
    (DistinctDocument.empty.set "name_" (.text "Ann") (by simp)).namesDistinct
  have hd : Document.NamesDistinct d := by
    refine (DistinctDocument.empty.set "author" (.nested _) fun inner hinner => ?_).namesDistinct
    obtain rfl := FieldValue.nested.inj hinner
    exact hann
  have hseparable : Document.SeparableNames d := by
    refine Document.separableNames_of_rows (by decide +kernel) fun name inner hmem => ?_
    obtain ⟨rfl, rfl⟩ : name = "author" ∧ inner = ⟨[("name_", .text "Ann")]⟩ := by
      simpa [d] using hmem
    exact ⟨by decide +kernel, Document.separableNames_of_rows (by decide +kernel) (by simp)⟩
  obtain ⟨-, -, hdefined, hpublished⟩ := names_agree ⟨schema, hdistinct⟩
  obtain ⟨-, -, -, -, hmapped⟩ := hdefined hdots hsep
  have hleaves : schema.definedLeaves = ["_id", "author__name_"] := by decide +kernel
  have hsegments : FieldName.segments "author.name_" = ["author", "name_"] := by decide +kernel
  have hvalue := hpublished ⟨d, hd⟩ hseparable "author.name_" (.text "Ann")
    (by rw [hsegments]; rfl) (by simp) (by decide +kernel)
  refine ⟨hdistinct, hdots, hsep, hleaves, hleaves ▸ hmapped, ?_⟩
  have hname : FieldName.ofPath "author.name_" = "author__name_" := by decide +kernel
  rw [← hname, hvalue]
  rfl

end SearchGateway
