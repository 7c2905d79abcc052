import Mathlib.Tactic.Lemma
import SearchGateway.Content.Registry
import SearchGateway.Proofs.Maps
import SearchGateway.Proofs.SchemaMerge

/-!
# Derived schemas

The types of an index name each other in their structured fields, in any way and also in circles.
A path through the derived schema of the index goes from type to type along these names, and it
never comes back to a type: it belongs to a chain of different types (`Content.Chain`).  This
file shows that the derived schema has no other paths, and that it has a path for each of these
chains, unless a name is a structured field in one content and another field in another.

The derivation can be carried out with the list of the types that it is inside of, skipping these
types where they are named again.  It then ends, and its results are the derived schemas
(`Content.Expands`).  The order in which contents were registered is not seen in them, because
contents are kept by the names of their types.
-/
namespace SearchGateway

/-! ## Registered contents -/

namespace Registry

variable {contents contents' : List Content} {name typeName : String} {content : Content}

/-- The registry that knows some contents, registered one after the other. -/
def ofContents (contents : List Content) : Registry := contents.foldl registerContent .empty

/-- The names of the types that have contents on an index. -/
def typesOn (contents : List Content) (name : String) : List String :=
  (contents.filter fun content => content.index = name).map (·.typeName)

lemma contentsOf_registerContent (r : Registry) (content : Content) (name : String) :
    (r.registerContent content).contentsOf name =
      if content.index = name then (r.contentsOf name).insert content.typeName content
      else r.contentsOf name := by
  by_cases h : content.index = name
  · subst h
    simp [registerContent, contentsOf]
  · simp [registerContent, contentsOf, h, Ne.symm h]

/-- The contents that were registered for an index, by type. -/
lemma contentsOf_ofContents (contents : List Content) (name : String) :
    (ofContents contents).contentsOf name =
      .ofList ((contents.filter fun content => content.index = name).map
        fun content => (content.typeName, content)) := by
  rw [ofContents, KeyMap.ofList]
  have hnone : (KeyMap.empty : KeyMap Content) = Registry.empty.contentsOf name := rfl
  rw [hnone]
  generalize Registry.empty = r
  induction contents generalizing r with
  | nil => rfl
  | cons content rest ih =>
    rw [List.foldl_cons, ih, contentsOf_registerContent]
    by_cases h : content.index = name <;> simp [h]

lemma map_fst_registered (contents : List Content) (name : String) :
    ((contents.filter fun content => content.index = name).map
      fun content => (content.typeName, content)).map Prod.fst = typesOn contents name := by
  rw [List.map_map]
  rfl

lemma mem_of_get?_contentsOf (h : ((ofContents contents).contentsOf name).get? typeName =
    some content) : content ∈ contents ∧ content.index = name ∧ content.typeName = typeName := by
  have hmem := KeyMap.mem_of_get?_eq_some h
  rw [contentsOf_ofContents, KeyMap.ofList_eq_insertAll] at hmem
  rcases KeyMap.mem_insertAll hmem with hmem | hmem
  · obtain ⟨found, hfound, heq⟩ := List.mem_map.1 hmem
    obtain ⟨rfl, rfl⟩ := Prod.mk.inj heq
    rw [List.mem_filter, decide_eq_true_iff] at hfound
    exact ⟨hfound.1, hfound.2, rfl⟩
  · exact absurd hmem List.not_mem_nil

/-- Where the types are different, every content is found by its type. -/
lemma get?_contentsOf_of_mem (hnodup : (typesOn contents name).Nodup) (hmem : content ∈ contents)
    (hindex : content.index = name) :
    ((ofContents contents).contentsOf name).get? content.typeName = some content := by
  rw [← map_fst_registered] at hnodup
  have hperm := KeyMap.ofList_perm hnodup
  rw [contentsOf_ofContents]
  refine lookup_eq_some_of_mem ((hperm.map Prod.fst).nodup_iff.2 hnodup) (hperm.mem_iff.2 ?_)
  exact List.mem_map.2 ⟨content, by simpa [hindex] using hmem, rfl⟩

lemma isEmpty_contentsOf (h : ∃ content ∈ contents, content.index = name) :
    ((ofContents contents).contentsOf name).isEmpty = false := by
  obtain ⟨content, hmem, hindex⟩ := h
  have hkey : content.typeName ∈ ((ofContents contents).contentsOf name).keys := by
    rw [contentsOf_ofContents, KeyMap.ofList_eq_insertAll, KeyMap.mem_keys_insertAll]
    refine .inl (List.mem_map.2 ⟨(content.typeName, content), ?_, rfl⟩)
    exact List.mem_map.2 ⟨content, by simpa [hindex] using hmem, rfl⟩
  have hne : ((ofContents contents).contentsOf name).entries ≠ [] := by
    intro hnil
    simp [KeyMap.keys, hnil] at hkey
  simpa [KeyMap.isEmpty] using hne

/-- The contents of an index do not depend on the order in which they were registered. -/
lemma contentsOf_eq_of_perm (hnodup : (typesOn contents name).Nodup)
    (h : contents.Perm contents') :
    (ofContents contents).contentsOf name = (ofContents contents').contentsOf name := by
  rw [contentsOf_ofContents, contentsOf_ofContents]
  refine KeyMap.ofList_eq_of_perm ?_ ((h.filter _).map _)
  rwa [map_fst_registered]

end Registry

/-! ## One level of a derivation -/

/-- The declaration that a field makes, given the schemas of types. -/
def ContentField.entry (schemaOf : String → Schema) (field : ContentField) : SchemaEntry :=
  if field.isStruct then .nested (Schema.mergeAll (field.sources.map schemaOf))
  else .field field.type

@[simp] lemma ContentField.isNested_entry (schemaOf : String → Schema) (field : ContentField) :
    (field.entry schemaOf).isNested = field.isStruct := by
  rw [entry]
  cases field.isStruct <;> rfl

namespace Content

variable {available contents : KeyMap Content} {content : Content} {typeName : String}
  {types names : List String} {type : FieldType}

/-- The schemas of the single fields of a content, given the schemas of types. -/
def fieldSchemas (content : Content) (schemaOf : String → Schema) : List Schema :=
  content.fields.rows.map fun row => ⟨[(row.1, row.2.entry schemaOf)]⟩

lemma derivedSchema_of_none (h : available.get? typeName = none) :
    derivedSchema available typeName = .empty := by
  rw [derivedSchema]
  split
  · rfl
  · next content hcontent => exact absurd (h.symm.trans hcontent) (by simp)

/-- The schema of a type merges what its fields declare, and below the type it is not available. -/
lemma derivedSchema_of_some (h : available.get? typeName = some content) :
    derivedSchema available typeName =
      Schema.mergeAll (content.fieldSchemas (derivedSchema (available.erase typeName))) := by
  rw [derivedSchema]
  split
  · next hnone => exact absurd (hnone.symm.trans h) (by simp)
  · next found hfound =>
    obtain rfl : found = content := Option.some.inj (hfound.symm.trans h)
    rw [Schema.mergeAll, fieldSchemas, List.foldl_map]
    refine List.foldl_ext _ _ _ fun schema row _ => ?_
    obtain ⟨name, field⟩ := row
    rw [ContentField.entry, Schema.mergeAll, List.foldl_map]
    exact Schema.declare_eq_merge _ _ _

/-! ## The derivation with the types on the way -/

/-- The schema of a content where the types on the way are skipped, as are types without a
content. -/
def expanded (content : Content) (contents : KeyMap Content) (way : List String)
    (schemaOf : String → Schema) : Schema :=
  content.fields.rows.foldl (fun schema row =>
    Schema.declare schema row.1 <|
      if row.2.isStruct then
        .nested <| row.2.sources.foldl (fun nested source =>
          if source ∈ way ∨ (contents.get? source).isNone then nested
          else Schema.merge nested (schemaOf source)) .empty
      else .field row.2.type) .empty

/-- The derivation of the schema of a type, started inside the types on the way, ends with a
schema: it needs the schemas of the types that are not skipped, started one step further. -/
inductive Expands (contents : KeyMap Content) : List String → String → Schema → Prop
  | intro {way : List String} {typeName : String} {content : Content}
      {schemaOf : String → Schema} (hget : contents.get? typeName = some content)
      (hsources : ∀ row ∈ content.fields.rows, row.2.isStruct → ∀ source ∈ row.2.sources,
        source ∉ typeName :: way → (contents.get? source).isSome →
          Expands contents (typeName :: way) source (schemaOf source)) :
      Expands contents way typeName (content.expanded contents (typeName :: way) schemaOf)

/-- Skipping the types on the way is the same as not having their contents. -/
lemma mergeAll_derivedSchemas_without (contents : KeyMap Content) (way sources : List String) :
    Schema.mergeAll (sources.map (derivedSchema (contents.without way))) =
      sources.foldl (fun nested source =>
        if source ∈ way ∨ (contents.get? source).isNone then nested
        else Schema.merge nested (derivedSchema (contents.without way) source)) .empty := by
  rw [Schema.mergeAll, List.foldl_map]
  refine List.foldl_ext _ _ _ fun nested source _ => ?_
  by_cases hskip : source ∈ way ∨ (contents.get? source).isNone
  · have hnone : (contents.without way).get? source = none := by
      rw [KeyMap.get?_without]
      by_cases hmem : source ∈ way
      · rw [if_pos hmem]
      · rw [if_neg hmem]
        exact Option.isNone_iff_eq_none.1 (hskip.resolve_left hmem)
    rw [if_pos hskip, derivedSchema_of_none hnone, Schema.merge_empty]
  · rw [if_neg hskip]

lemma derivedSchema_without {way : List String} (hget : contents.get? typeName = some content)
    (hway : typeName ∉ way) :
    derivedSchema (contents.without way) typeName =
      content.expanded contents (typeName :: way)
        (derivedSchema (contents.without (typeName :: way))) := by
  have hget' : (contents.without way).get? typeName = some content := by
    rw [KeyMap.get?_without, if_neg hway, hget]
  rw [derivedSchema_of_some hget', KeyMap.erase_without, Schema.mergeAll, fieldSchemas,
    List.foldl_map, expanded]
  refine List.foldl_ext _ _ _ fun schema row _ => ?_
  rw [Schema.declare_eq_merge, ContentField.entry, mergeAll_derivedSchemas_without]

/-- The derivation ends: with every type on the way fewer types are left. -/
theorem expands_derivedSchema (way : List String) (typeName : String)
    (hget : (contents.get? typeName).isSome) (hway : typeName ∉ way) :
    Expands contents way typeName (derivedSchema (contents.without way) typeName) := by
  obtain ⟨content, hget⟩ := Option.isSome_iff_exists.1 hget
  have hget' : (contents.without way).get? typeName = some content := by
    rw [KeyMap.get?_without, if_neg hway, hget]
  rw [derivedSchema_without hget hway]
  refine .intro hget fun row _ _ source _ hsource hsome => ?_
  exact expands_derivedSchema (typeName :: way) source hsome hsource
termination_by (contents.without way).size
decreasing_by
  rw [← KeyMap.erase_without]
  exact KeyMap.size_erase_lt hget'

lemma expanded_congr {way : List String} {schemaOf schemaOf' : String → Schema}
    (h : ∀ row ∈ content.fields.rows, row.2.isStruct → ∀ source ∈ row.2.sources,
      source ∉ way → (contents.get? source).isSome → schemaOf source = schemaOf' source) :
    content.expanded contents way schemaOf = content.expanded contents way schemaOf' := by
  refine List.foldl_ext _ _ _ fun schema row hrow => ?_
  by_cases hstruct : row.2.isStruct
  · rw [if_pos hstruct, if_pos hstruct]
    refine congrArg (fun nested => schema.declare row.1 (.nested nested)) ?_
    refine List.foldl_ext _ _ _ fun nested source hsource => ?_
    by_cases hskip : source ∈ way ∨ (contents.get? source).isNone
    · rw [if_pos hskip, if_pos hskip]
    · rw [if_neg hskip, if_neg hskip]
      obtain ⟨hnew, hknown⟩ := not_or.1 hskip
      have hsome := Option.isSome_iff_ne_none.2 (mt Option.isNone_iff_eq_none.2 hknown)
      rw [h row hrow hstruct source hsource hnew hsome]
  · rw [if_neg hstruct, if_neg hstruct]

lemma Expands.eq_derivedSchema {way : List String} {schema : Schema}
    (h : Expands contents way typeName schema) (hway : typeName ∉ way) :
    schema = derivedSchema (contents.without way) typeName := by
  induction h with
  | intro hget _ ih =>
    rw [derivedSchema_without hget hway]
    exact expanded_congr fun row hrow hstruct source hsource hnew hsome =>
      ih row hrow hstruct source hsource hnew hsome hnew

/-- The derivation ends with the derived schema and with no other. -/
theorem expands_iff (hget : (contents.get? typeName).isSome) {schema : Schema} :
    Expands contents [] typeName schema ↔ schema = derivedSchema contents typeName := by
  constructor
  · intro h
    rw [h.eq_derivedSchema List.not_mem_nil, KeyMap.without_nil]
  · rintro rfl
    have h := expands_derivedSchema [] typeName hget List.not_mem_nil
    rwa [KeyMap.without_nil] at h

/-! ## Chains of types -/

/-- A way through contents: the types that it leads through, the names of the fields that it
follows, and the type of the field at its end. -/
inductive Chain (contents : KeyMap Content) : List String → List String → FieldType → Prop
  | field {typeName name : String} {content : Content} {field : ContentField}
      (hget : contents.get? typeName = some content) (hrow : (name, field) ∈ content.fields.rows)
      (hplain : field.isStruct = false) : Chain contents [typeName] [name] field.type
  | nest {typeName name source : String} {content : Content} {field : ContentField}
      {types names : List String} {type : FieldType}
      (hget : contents.get? typeName = some content) (hrow : (name, field) ∈ content.fields.rows)
      (hstruct : field.isStruct = true) (hsource : source ∈ field.sources)
      (hrest : Chain contents (source :: types) names type) :
      Chain contents (typeName :: source :: types) (name :: names) type

lemma Chain.isSome_get? (h : Chain contents types names type) :
    ∀ typeName ∈ types, (contents.get? typeName).isSome := by
  induction h with
  | field hget _ _ => simp [hget]
  | nest hget _ _ _ _ ih => exact List.forall_mem_cons.2 ⟨by simp [hget], ih⟩

lemma Chain.mono (h : Chain available types names type)
    (hsub : ∀ typeName content, available.get? typeName = some content →
      contents.get? typeName = some content) : Chain contents types names type := by
  induction h with
  | field hget hrow hplain => exact .field (hsub _ _ hget) hrow hplain
  | nest hget hrow hstruct hsource _ ih => exact .nest (hsub _ _ hget) hrow hstruct hsource ih

lemma Chain.names_ne_nil (h : Chain contents types names type) : names ≠ [] := by
  cases h <;> simp

lemma Chain.exists_row (h : Chain contents types names type) :
    ∀ name ∈ names, ∃ typeName content field, contents.get? typeName = some content ∧
      (name, field) ∈ content.fields.rows := by
  induction h with
  | field hget hrow _ => exact List.forall_mem_singleton.2 ⟨_, _, _, hget, hrow⟩
  | nest hget hrow _ _ _ ih => exact List.forall_mem_cons.2 ⟨⟨_, _, _, hget, hrow⟩, ih⟩

/-! ## Paths and chains -/

lemma get?_of_get?_erase {wanted : String}
    (h : (available.erase typeName).get? wanted = some content) :
    wanted ≠ typeName ∧ available.get? wanted = some content := by
  rw [KeyMap.get?_erase] at h
  split at h
  · exact absurd h (by simp)
  · next hne => exact ⟨hne, h⟩

lemma regular_of_mem_fieldSchemas {Q : String → Bool → Prop} {schemaOf : String → Schema}
    (hrows : ∀ row ∈ content.fields.rows, Q row.1 row.2.isStruct)
    (hschemas : ∀ source, Schema.Regular Q (schemaOf source)) {schema : Schema}
    (h : schema ∈ content.fieldSchemas schemaOf) : Schema.Regular Q schema := by
  obtain ⟨row, hrow, rfl⟩ := List.mem_map.1 h
  refine Schema.regular_singleton ?_ fun inner hinner => ?_
  · rw [ContentField.isNested_entry]
    exact hrows row hrow
  · rw [ContentField.entry] at hinner
    split at hinner
    · obtain rfl := SchemaEntry.nested.inj hinner
      exact Schema.regular_mergeAll (List.forall_mem_map.2 fun source _ => hschemas source)
    · exact absurd hinner (by simp)

/-- `Q` holds of the name of every field and of whether the field is structured. -/
def EveryField (Q : String → Bool → Prop) (contents : KeyMap Content) : Prop :=
  ∀ typeName content, contents.get? typeName = some content →
    ∀ row ∈ content.fields.rows, Q row.1 row.2.isStruct

lemma EveryField.erase {Q : String → Bool → Prop} (h : EveryField Q available)
    (typeName : String) : EveryField Q (available.erase typeName) :=
  fun other found hfound => h other found (get?_of_get?_erase hfound).2

/-- What holds of all fields of the contents holds of what the derived schema declares. -/
theorem regular_derivedSchema {Q : String → Bool → Prop} {available : KeyMap Content}
    (h : EveryField Q available) (typeName : String) :
    Schema.Regular Q (derivedSchema available typeName) := by
  match hget : available.get? typeName with
  | none =>
    rw [derivedSchema_of_none hget]
    exact Schema.regular_empty
  | some content =>
    have hbelow : ∀ source, Schema.Regular Q (derivedSchema (available.erase typeName) source) :=
      regular_derivedSchema (h.erase typeName)
    rw [derivedSchema_of_some hget]
    exact Schema.regular_mergeAll fun schema hmem =>
      regular_of_mem_fieldSchemas (h typeName content hget) hbelow hmem
termination_by available.size
decreasing_by exact KeyMap.size_erase_lt hget

lemma everyField_true (contents : KeyMap Content) : EveryField (fun _ _ => True) contents :=
  fun _ _ _ _ _ => trivial

/-- The derived schema of a type, in which no name is declared twice. -/
def distinctSchema (available : KeyMap Content) (typeName : String) : DistinctSchema where
  schema := derivedSchema available typeName
  namesDistinct := (regular_derivedSchema (everyField_true available) typeName).namesDistinct

variable {nests : String → Bool} {name : String} {rest : List String} {field : ContentField}

/-- A path through a derived schema begins with a field of the type, and if the field is
structured, it goes on in the schema of a type that the field names. -/
lemma exists_row_of_typeAt? (hget : available.get? typeName = some content)
    (h : (derivedSchema available typeName).typeAt? (name :: rest) = some type) :
    ∃ field, (name, field) ∈ content.fields.rows ∧
      (field.isStruct = false ∧ rest = [] ∧ field.type = type ∨
        field.isStruct = true ∧ ∃ source ∈ field.sources,
          (derivedSchema (available.erase typeName) source).typeAt? rest = some type) := by
  rw [derivedSchema_of_some hget] at h
  have hdistinct : ∀ schema ∈ content.fieldSchemas (derivedSchema (available.erase typeName)),
      Schema.NamesDistinct schema := fun schema hmem =>
    (regular_of_mem_fieldSchemas (everyField_true available typeName content hget)
      (regular_derivedSchema (everyField_true _)) hmem).namesDistinct
  obtain ⟨schema, hschema, hfound⟩ := Schema.exists_of_typeAt?_mergeAll hdistinct h
  obtain ⟨⟨declared, field⟩, hrow, rfl⟩ := List.mem_map.1 hschema
  rw [Schema.typeAt?_singleton_cons, Option.ite_none_right_eq_some] at hfound
  obtain ⟨rfl, hentry⟩ := hfound
  refine ⟨field, hrow, ?_⟩
  by_cases hstruct : field.isStruct
  · rw [ContentField.entry, if_pos hstruct] at hentry
    obtain ⟨nested, hnested, hinner⟩ := Schema.exists_of_typeAt?_mergeAll
      (List.forall_mem_map.2 fun source _ => (distinctSchema _ source).namesDistinct) hentry
    obtain ⟨source, hsource, rfl⟩ := List.mem_map.1 hnested
    exact .inr ⟨hstruct, source, hsource, hinner⟩
  · rw [ContentField.entry, if_neg hstruct] at hentry
    simp only [Option.ite_none_right_eq_some, Option.some.injEq] at hentry
    exact .inl ⟨by simpa using hstruct, hentry.1, hentry.2⟩

/-- A path through a derived schema belongs to a chain of different types. -/
theorem exists_chain_of_typeAt? (h : (derivedSchema available typeName).typeAt? names = some type) :
    ∃ types, (typeName :: types).Nodup ∧ Chain available (typeName :: types) names type := by
  induction names generalizing available typeName with
  | nil => exact absurd h (by simp [Schema.typeAt?_nil])
  | cons name rest ih =>
    rcases hget : available.get? typeName with _ | content
    · rw [derivedSchema_of_none hget, Schema.typeAt?_cons] at h
      exact absurd h (by simp [Table.get?, Table.empty])
    · obtain ⟨field, hrow, ⟨hplain, rfl, rfl⟩ | ⟨hstruct, source, hsource, hfound⟩⟩ :=
        exists_row_of_typeAt? hget h
      · exact ⟨[], List.nodup_singleton _, .field hget hrow hplain⟩
      · obtain ⟨types, hnodup, hchain⟩ := ih hfound
        -- the rest of the chain has been found without the type, so it does not come back to it
        have hnew : typeName ∉ source :: types := by
          intro hmem
          have hsome := hchain.isSome_get? typeName hmem
          simp [KeyMap.get?_erase] at hsome
        have hrest : Chain available (source :: types) rest type :=
          hchain.mono fun _ _ hfound => (get?_of_get?_erase hfound).2
        exact ⟨source :: types, List.nodup_cons.2 ⟨hnew, hnodup⟩,
          .nest hget hrow hstruct hsource hrest⟩

/-- Whether the fields of the contents are structured can be told from their names. -/
abbrev Shaped (nests : String → Bool) (contents : KeyMap Content) : Prop :=
  EveryField (fun name struct => struct = nests name) contents

lemma shaped_of_mem_fieldSchemas (h : Shaped nests available)
    (hget : available.get? typeName = some content) :
    ∀ schema ∈ content.fieldSchemas (derivedSchema (available.erase typeName)),
      Schema.Shaped nests schema :=
  fun _ hmem => regular_of_mem_fieldSchemas (h typeName content hget)
    (regular_derivedSchema (h.erase typeName)) hmem

lemma isSome_typeAt?_of_field (hshaped : Shaped nests available)
    (hget : available.get? typeName = some content) (hrow : (name, field) ∈ content.fields.rows)
    (hplain : field.isStruct = false) :
    ((derivedSchema available typeName).typeAt? [name]).isSome := by
  rw [derivedSchema_of_some hget]
  refine Schema.isSome_typeAt?_mergeAll (shaped_of_mem_fieldSchemas hshaped hget)
    (List.mem_map_of_mem hrow) ?_
  simp [Schema.typeAt?_singleton_cons, ContentField.entry, hplain]

lemma isSome_typeAt?_of_nested {source : String} (hshaped : Shaped nests available)
    (hget : available.get? typeName = some content) (hrow : (name, field) ∈ content.fields.rows)
    (hstruct : field.isStruct = true) (hsource : source ∈ field.sources)
    (hrest : ((derivedSchema (available.erase typeName) source).typeAt? rest).isSome) :
    ((derivedSchema available typeName).typeAt? (name :: rest)).isSome := by
  have hnested : ∀ schema ∈ field.sources.map (derivedSchema (available.erase typeName)),
      Schema.Shaped nests schema :=
    List.forall_mem_map.2 fun other _ => regular_derivedSchema (hshaped.erase typeName) other
  rw [derivedSchema_of_some hget]
  refine Schema.isSome_typeAt?_mergeAll (shaped_of_mem_fieldSchemas hshaped hget)
    (List.mem_map_of_mem hrow) ?_
  rw [Schema.typeAt?_singleton_cons, if_pos rfl, ContentField.entry, if_pos hstruct]
  exact Schema.isSome_typeAt?_mergeAll hnested (List.mem_map_of_mem hsource) hrest

/-- Every chain of different types has its path in the derived schema. -/
theorem isSome_typeAt?_of_chain (h : Chain contents (typeName :: types) names type)
    (hnodup : (typeName :: types).Nodup)
    (havailable : ∀ other ∈ typeName :: types, available.get? other = contents.get? other)
    (hshaped : Shaped nests available) :
    ((derivedSchema available typeName).typeAt? names).isSome := by
  generalize hall : typeName :: types = all at h
  induction h generalizing available typeName types with
  | field hget hrow hplain =>
    obtain ⟨rfl, -⟩ := List.cons.inj hall
    exact isSome_typeAt?_of_field hshaped ((havailable _ List.mem_cons_self).trans hget) hrow hplain
  | nest hget hrow hstruct hsource _ ih =>
    obtain ⟨rfl, rfl⟩ := List.cons.inj hall
    obtain ⟨hnew, hrest⟩ := List.nodup_cons.1 hnodup
    refine isSome_typeAt?_of_nested hshaped ((havailable _ List.mem_cons_self).trans hget) hrow
      hstruct hsource (ih hrest ?_ (hshaped.erase _) rfl)
    -- the types further on are still available
    intro other hother
    have hne : other ≠ typeName := fun heq => hnew (heq ▸ hother)
    rw [KeyMap.get?_erase, if_neg hne]
    exact havailable other (List.mem_cons_of_mem _ hother)

/-- No name is a structured field in one content and another field in another. -/
def KindsAgree (contents : KeyMap Content) : Prop :=
  ∀ typeName content typeName' content', contents.get? typeName = some content →
    contents.get? typeName' = some content' → ∀ name field field',
      (name, field) ∈ content.fields.rows → (name, field') ∈ content'.fields.rows →
        field.isStruct = field'.isStruct

/-- No name of a field has a dot in it. -/
def DotFree (contents : KeyMap Content) : Prop :=
  ∀ typeName content, contents.get? typeName = some content →
    ∀ row ∈ content.fields.rows, '.' ∉ row.1.toList

lemma KindsAgree.exists_shaped (h : KindsAgree contents) : ∃ nests, Shaped nests contents := by
  classical
  refine ⟨fun name => decide (∃ typeName content field, contents.get? typeName = some content ∧
    (name, field) ∈ content.fields.rows ∧ field.isStruct = true), ?_⟩
  intro typeName content hget row hrow
  by_cases hstruct : row.2.isStruct
  · rw [hstruct]
    exact (decide_eq_true ⟨typeName, content, row.2, hget, hrow, hstruct⟩).symm
  · rw [Bool.not_eq_true] at hstruct
    rw [hstruct]
    refine (decide_eq_false ?_).symm
    rintro ⟨typeName', content', field', hget', hrow', hstruct'⟩
    have heq := h _ _ _ _ hget hget' _ _ _ hrow hrow'
    rw [hstruct, hstruct'] at heq
    exact absurd heq (by simp)

end Content

/-! ## The schema of an index -/

namespace Registry

variable {contents contents' : List Content} {name : String} {types names : List String}
  {type : FieldType}

/-- The schema of an index merges the schemas of its types. -/
lemma derivedSchema_eq_mergeAll (r : Registry) (name : String) :
    r.derivedSchema name =
      Schema.mergeAll
        ((r.contentsOf name).keys.map (Content.derivedSchema (r.contentsOf name))) := by
  rw [derivedSchema, Schema.mergeAll, List.foldl_map]

/-- The derived schema of an index, in which no name is declared twice. -/
def distinctSchema (r : Registry) (name : String) : DistinctSchema :=
  ((r.contentsOf name).keys.map (Content.distinctSchema (r.contentsOf name))).foldl .merge .empty

theorem schema_distinctSchema (r : Registry) (name : String) :
    (r.distinctSchema name).schema = r.derivedSchema name := by
  rw [distinctSchema, derivedSchema, List.foldl_map]
  exact (List.foldl_hom DistinctSchema.schema fun _ _ => rfl).symm

lemma derivedIndex_eq_of_perm (engine : Engine) (hnodup : (typesOn contents name).Nodup)
    (h : contents.Perm contents') :
    (ofContents contents').derivedIndex name engine =
      (ofContents contents).derivedIndex name engine := by
  simp only [derivedIndex, derivedSchema, contentsOf_eq_of_perm hnodup h]

lemma exists_chain_of_fieldType? {r : Registry} {path : String}
    (h : (r.derivedSchema name).fieldType? path = some type) :
    ∃ types, types.Nodup ∧
      Content.Chain (r.contentsOf name) types (FieldName.segments path) type := by
  rw [derivedSchema_eq_mergeAll, Schema.fieldType?_eq_typeAt?] at h
  obtain ⟨schema, hschema, hfound⟩ := Schema.exists_of_typeAt?_mergeAll
    (List.forall_mem_map.2 fun typeName _ => (Content.distinctSchema _ typeName).namesDistinct) h
  obtain ⟨typeName, -, rfl⟩ := List.mem_map.1 hschema
  obtain ⟨types, hnodup, hchain⟩ := Content.exists_chain_of_typeAt? hfound
  exact ⟨typeName :: types, hnodup, hchain⟩

lemma isSome_fieldType?_of_chain {r : Registry} (hkinds : Content.KindsAgree (r.contentsOf name))
    (hdots : Content.DotFree (r.contentsOf name)) (hnodup : types.Nodup)
    (h : Content.Chain (r.contentsOf name) types names type) :
    ((r.derivedSchema name).fieldType? (FieldName.dotted names)).isSome := by
  obtain ⟨nests, hshaped⟩ := hkinds.exists_shaped
  have hsegments : FieldName.segments (FieldName.dotted names) = names := by
    refine FieldName.segments_dotted h.names_ne_nil fun segment hsegment => ?_
    obtain ⟨typeName, content, field, hget, hrow⟩ := h.exists_row segment hsegment
    exact hdots typeName content hget _ hrow
  obtain ⟨typeName, rest, rfl⟩ : ∃ typeName rest, types = typeName :: rest := by
    cases h <;> exact ⟨_, _, rfl⟩
  have hkey : typeName ∈ (r.contentsOf name).keys :=
    KeyMap.mem_keys_iff.2 (h.isSome_get? typeName List.mem_cons_self)
  have hschemas : ∀ schema ∈ (r.contentsOf name).keys.map
      (Content.derivedSchema (r.contentsOf name)), Schema.Shaped nests schema :=
    List.forall_mem_map.2 fun other _ => Content.regular_derivedSchema hshaped other
  rw [derivedSchema_eq_mergeAll, Schema.fieldType?_eq_typeAt?, hsegments]
  exact Schema.isSome_typeAt?_mergeAll hschemas (List.mem_map_of_mem hkey)
    (Content.isSome_typeAt?_of_chain h hnodup (fun _ _ => rfl) hshaped)

/-- **The paths of a derived schema are the chains of different types.**  Deriving the schema of an
index that has contents ends: the index is there, its schema merges the schemas of its types, and
for each type the derivation that skips the types on the way ends with that schema and no other.
The order in which contents of different types were registered does not matter.  Every path to a
field belongs to a chain of different types.  And where names agree on being structured and have no
dots in them, every such chain has a path to a field. -/
theorem derived_schema_follows_chains (contents : List Content) (name : String) (engine : Engine)
    (hsome : ∃ content ∈ contents, content.index = name) :
    let registered := (ofContents contents).contentsOf name
    let schema := (ofContents contents).derivedSchema name
    ((ofContents contents).derivedIndex name engine = .ok ⟨name, engine, schema⟩ ∧
      schema = Schema.mergeAll (registered.keys.map (Content.derivedSchema registered)) ∧
      ∀ typeName ∈ registered.keys, ∀ result, Content.Expands registered [] typeName result ↔
        result = Content.derivedSchema registered typeName) ∧
    ((typesOn contents name).Nodup → ∀ contents', contents.Perm contents' →
      (ofContents contents').derivedIndex name engine =
        (ofContents contents).derivedIndex name engine) ∧
    (∀ path type, schema.fieldType? path = some type → ∃ types, types.Nodup ∧
      Content.Chain registered types (FieldName.segments path) type) ∧
    (Content.KindsAgree registered → Content.DotFree registered →
      ∀ types names type, types.Nodup → Content.Chain registered types names type →
        (schema.fieldType? (FieldName.dotted names)).isSome) := by
  intro registered schema
  refine ⟨⟨?_, derivedSchema_eq_mergeAll _ name, fun typeName hkey result => ?_⟩, ?_, ?_, ?_⟩
  · rw [derivedIndex, isEmpty_contentsOf hsome]
    rfl
  · exact Content.expands_iff (KeyMap.mem_keys_iff.1 hkey)
  · intro hnodup contents' hperm
    exact derivedIndex_eq_of_perm engine hnodup hperm
  · exact fun path type hfound => exists_chain_of_fieldType? hfound
  · exact fun hkinds hdots types names type hnodup hchain =>
      isSome_fieldType?_of_chain hkinds hdots hnodup hchain

/-- Two types that name each other, and one of them itself: the path goes once around, and no
further. -/
theorem derived_schema_follows_chains_of_circle :
    let article : Content := ⟨"Article", "texts", ⟨[("title", .property "title" (.ofKind .text)),
      ("author", .nested "author" ["Author"])]⟩⟩
    let author : Content := ⟨"Author", "texts", ⟨[("name", .property "name" (.ofKind .string)),
      ("latest", .nested "latest" ["Author", "Article"])]⟩⟩
    let schema := (ofContents [article, author]).derivedSchema "texts"
    (ofContents [author, article]).derivedIndex "texts" .elasticsearch =
        .ok ⟨"texts", .elasticsearch, schema⟩ ∧
      (schema.fieldType? "latest.title").isSome ∧
      schema.fieldType? "author.latest.title" = none := by
  intro article author schema
  have hnodup : (typesOn [article, author] "texts").Nodup := by decide +kernel
  have harticle : ((ofContents [article, author]).contentsOf "texts").get? "Article" =
      some article :=
    get?_contentsOf_of_mem hnodup (show article ∈ [article, author] by simp) rfl
  have hauthor : ((ofContents [article, author]).contentsOf "texts").get? "Author" =
      some author :=
    get?_contentsOf_of_mem hnodup (show author ∈ [article, author] by simp) rfl
  have hcontents : ∀ {typeName content},
      ((ofContents [article, author]).contentsOf "texts").get? typeName = some content →
        content = article ∧ typeName = "Article" ∨ content = author := by
    intro typeName content hget
    obtain ⟨hmem, -, rfl⟩ := mem_of_get?_contentsOf hget
    rcases List.mem_cons.1 hmem with rfl | hmem
    · exact .inl ⟨rfl, rfl⟩
    · exact .inr (List.mem_singleton.1 hmem)
  have hrows : ∀ {P : String × ContentField → Prop}, (∀ row ∈ article.fields.rows, P row) →
      (∀ row ∈ author.fields.rows, P row) → ∀ typeName content,
        ((ofContents [article, author]).contentsOf "texts").get? typeName = some content →
          ∀ row ∈ content.fields.rows, P row := by
    intro P hfirst hsecond typeName content hget
    rcases hcontents hget with ⟨rfl, -⟩ | rfl
    exacts [hfirst, hsecond]
  have hdots : Content.DotFree ((ofContents [article, author]).contentsOf "texts") :=
    hrows (by decide +kernel) (by decide +kernel)
  have hkinds : Content.KindsAgree ((ofContents [article, author]).contentsOf "texts") := by
    have hnested : ∀ typeName content,
        ((ofContents [article, author]).contentsOf "texts").get? typeName = some content →
          ∀ row ∈ content.fields.rows,
            row.2.isStruct = decide (row.1 = "author" ∨ row.1 = "latest") :=
      hrows (by decide +kernel) (by decide +kernel)
    intro _ _ _ _ hget hget' _ _ _ hrow hrow'
    exact (hnested _ _ hget _ hrow).trans (hnested _ _ hget' _ hrow').symm
  obtain ⟨⟨hok, -⟩, horder, hsound, hcomplete⟩ :=
    derived_schema_follows_chains [article, author] "texts" .elasticsearch
      ⟨article, by simp, rfl⟩
  refine ⟨?_, ?_, ?_⟩
  · rw [horder hnodup _ (List.Perm.swap _ _ _), hok]
  · have hchain : Content.Chain ((ofContents [article, author]).contentsOf "texts")
        ["Author", "Article"] ["latest", "title"] (.ofKind .text) :=
      .nest hauthor (List.mem_cons_of_mem _ (List.mem_singleton_self _)) rfl (by decide)
        (.field harticle List.mem_cons_self rfl)
    have hpath : FieldName.dotted ["latest", "title"] = "latest.title" := by decide +kernel
    rw [← hpath]
    exact hcomplete hkinds hdots _ _ _ (by decide) hchain
  · refine Option.eq_none_iff_forall_ne_some.2 fun type hfound => ?_
    have hsegments : FieldName.segments "author.latest.title" = ["author", "latest", "title"] := by
      decide +kernel
    obtain ⟨types, hdifferent, hchain⟩ := hsound _ _ hfound
    rw [hsegments] at hchain
    -- only articles have authors and titles, so the chain would come back to them
    have honly : ∀ typeName content field,
        ((ofContents [article, author]).contentsOf "texts").get? typeName = some content →
          ("author", field) ∈ content.fields.rows ∨ ("title", field) ∈ content.fields.rows →
            typeName = "Article" := by
      intro typeName content field hget hrow
      rcases hcontents hget with ⟨-, htype⟩ | rfl
      · exact htype
      · simp [author] at hrow
    cases hchain with
    | nest hget hrow _ _ hrest =>
      cases hrest with
      | nest _ _ _ _ hlast =>
        cases hlast with
        | field hget' hrow' _ =>
          obtain rfl := honly _ _ _ hget (.inl hrow)
          obtain rfl := honly _ _ _ hget' (.inr hrow')
          simp at hdifferent
        | nest _ _ _ _ hnone => cases hnone

end Registry
end SearchGateway
