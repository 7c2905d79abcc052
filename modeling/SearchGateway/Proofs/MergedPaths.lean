import Mathlib.Tactic.Lemma
import SearchGateway.Proofs.SchemaMerge

/-!
# What a merge keeps and what it loses

A field of a schema is lost in a merge only where the later schema declares its path or a field on
the way to it, and nothing of the later schema is lost (`merge_path_by_path`).

A schema that was merged once has nothing to change when it is merged again, because each of its
declarations is absorbed by what it made the first time (`SchemaEntry.absorbed`).
-/
namespace SearchGateway
namespace Schema

variable {a b schema : Schema}

/-! ## Merging again -/

/-- Declarations that are absorbed by the entries under their names change nothing. -/
lemma declareAll_eq_self {rows : List (String × SchemaEntry)}
    (h : ∀ row ∈ rows, ∃ kept, schema.get? row.1 = some kept ∧ row.2.after (some kept) = kept) :
    declareAll rows schema = schema := by
  induction rows with
  | nil => rw [declareAll]
  | cons row rest ih =>
    obtain ⟨name, entry⟩ := row
    obtain ⟨⟨kept, hget, hkept⟩, hrest⟩ := List.forall_mem_cons.1 h
    have hdeclare : schema.declare name entry = schema := by
      rw [declare, hget, hkept]
      exact Table.set_eq_self hget
    rw [declareAll_cons, hdeclare, ih hrest]

/-- An entry is absorbed by what it was made into, whatever was there before. -/
def Absorbed (entry : SchemaEntry) : Prop :=
  ∀ earlier, entry.after (some (entry.after earlier)) = entry.after earlier

lemma merge_merge_of_absorbed (hb : b.Distinct) (h : ∀ row ∈ b.rows, Absorbed row.2)
    (a : Schema) : (a.merge b).merge b = a.merge b := by
  refine declareAll_eq_self fun row hrow => ⟨row.2.after (a.get? row.1), ?_, h row hrow _⟩
  have hget : b.get? row.1 = some row.2 := lookup_eq_some_of_mem hb hrow
  rw [get?_merge hb, hget]

lemma merge_self_of_absorbed (hb : b.Distinct) (h : ∀ row ∈ b.rows, Absorbed row.2) :
    b.merge b = b := by
  refine declareAll_eq_self fun row hrow => ⟨row.2, lookup_eq_some_of_mem hb hrow, ?_⟩
  simpa using h row hrow none

end Schema

mutual

theorem SchemaEntry.absorbed (entry : SchemaEntry)
    (h : ∀ inner, entry = .nested inner → Schema.NamesDistinct inner) : Schema.Absorbed entry := by
  intro earlier
  match entry with
  | .field type => rw [SchemaEntry.after, SchemaEntry.after]
  | .nested ⟨rows⟩ =>
    have hinner : Schema.NamesDistinct ⟨rows⟩ := h ⟨rows⟩ rfl
    have hrows := Schema.absorbed_of_mem rows fun name inner hmem => hinner.nested hmem
    by_cases hnested : ∃ schema, earlier = some (.nested schema)
    · obtain ⟨schema, rfl⟩ := hnested
      rw [SchemaEntry.after_nested_nested, SchemaEntry.after_nested_nested,
        Schema.merge_merge_of_absorbed hinner.distinct hrows]
    · rw [SchemaEntry.after_nested _ (not_exists.1 hnested), SchemaEntry.after_nested_nested,
        Schema.merge_self_of_absorbed hinner.distinct hrows]

theorem Schema.absorbed_of_mem (rows : List (String × SchemaEntry))
    (h : ∀ name inner, (name, .nested inner) ∈ rows → Schema.NamesDistinct inner) :
    ∀ row ∈ rows, Schema.Absorbed row.2 := by
  match rows with
  | [] => simp
  | (name, entry) :: rest =>
    refine List.forall_mem_cons.2 ⟨SchemaEntry.absorbed entry ?_, ?_⟩
    · rintro inner rfl
      exact h name inner List.mem_cons_self
    · exact Schema.absorbed_of_mem rest fun other inner hmem =>
        h other inner (List.mem_cons_of_mem _ hmem)

end

namespace Schema

variable {schema : Schema} {path : String} {type : FieldType}

lemma absorbed_of_mem_rows (b : DistinctSchema) : ∀ row ∈ b.schema.rows, Absorbed row.2 :=
  absorbed_of_mem b.schema.rows fun _ _ hmem => b.namesDistinct.nested hmem

lemma merge_merge_self (b : DistinctSchema) (a : Schema) :
    (a.merge b.schema).merge b.schema = a.merge b.schema :=
  merge_merge_of_absorbed b.namesDistinct.distinct (absorbed_of_mem_rows b) a

lemma merge_self (b : DistinctSchema) : b.schema.merge b.schema = b.schema :=
  merge_self_of_absorbed b.namesDistinct.distinct (absorbed_of_mem_rows b)

/-! ## What is kept and what is lost -/

lemma fieldType?_eq_some_iff :
    schema.fieldType? path = some type ↔ schema.resolve? path = some (.field type) :=
  typeAt?_eq_some_iff

lemma resolve?_merge_of_some (b : DistinctSchema) (a : Schema) {entry : SchemaEntry}
    (h : b.schema.resolve? path = some entry) :
    (a.merge b.schema).resolve? path = some (entry.after (a.resolve? path)) := by
  rw [resolve?, resolveSegments?_merge b.namesDistinct, ← resolve?, h]
  rfl

lemma resolve?_merge_of_fieldAbove (b : DistinctSchema) (a : Schema)
    (h : b.schema.FieldAbove (FieldName.segments path)) :
    (a.merge b.schema).resolve? path = none := by
  rw [resolve?, resolveSegments?_merge b.namesDistinct, resolveSegments?_of_fieldAbove h]
  exact if_pos h

lemma resolve?_merge_of_none (b : DistinctSchema) (a : Schema) (h : b.schema.resolve? path = none)
    (habove : ¬ b.schema.FieldAbove (FieldName.segments path)) :
    (a.merge b.schema).resolve? path = a.resolve? path := by
  rw [resolve?, resolveSegments?_merge b.namesDistinct, ← resolve?, h]
  exact if_neg habove

/-- **A merge, path by path.**  A path finds the type that the later schema has at its end.  It
finds none where the later schema nests a schema or has a field on the way, and otherwise it finds
what it found in the earlier schema.  So a field of the earlier schema is lost only where the later
one declares its path or a field on the way, and every entry of the later schema is kept, joined to
what the earlier one has there.  Merging a schema into itself changes nothing, and neither does
merging it a second time. -/
theorem merge_path_by_path (b : DistinctSchema) (a : Schema) :
    (∀ path,
      (∀ type, b.schema.fieldType? path = some type →
        (a.merge b.schema).fieldType? path = some type) ∧
      ((∃ inner, b.schema.resolve? path = some (.nested inner)) ∨
          b.schema.FieldAbove (FieldName.segments path) →
        (a.merge b.schema).fieldType? path = none) ∧
      (b.schema.resolve? path = none → ¬ b.schema.FieldAbove (FieldName.segments path) →
        (a.merge b.schema).fieldType? path = a.fieldType? path)) ∧
    (∀ path type, a.fieldType? path = some type →
      (a.merge b.schema).fieldType? path ≠ some type →
        (b.schema.resolve? path).isSome ∨ b.schema.FieldAbove (FieldName.segments path)) ∧
    (∀ path entry, b.schema.resolve? path = some entry →
      (a.merge b.schema).resolve? path = some (entry.after (a.resolve? path))) ∧
    b.schema.merge b.schema = b.schema ∧
    (a.merge b.schema).merge b.schema = a.merge b.schema := by
  have hkept : ∀ path, b.schema.resolve? path = none →
      ¬ b.schema.FieldAbove (FieldName.segments path) →
      (a.merge b.schema).fieldType? path = a.fieldType? path := by
    intro path hnone habove
    rw [fieldType?, resolve?_merge_of_none b a hnone habove, ← fieldType?]
  refine ⟨fun path => ⟨fun type htype => ?_, ?_, hkept path⟩, fun path type htype hlost => ?_,
    fun path entry => resolve?_merge_of_some b a, merge_self b, merge_merge_self b a⟩
  · rw [fieldType?_eq_some_iff] at htype ⊢
    rw [resolve?_merge_of_some b a htype, SchemaEntry.after]
  · rintro (⟨inner, hinner⟩ | habove)
    · refine Option.eq_none_iff_forall_ne_some.2 fun type htype => ?_
      rw [fieldType?_eq_some_iff, resolve?_merge_of_some b a hinner, Option.some.injEq,
        SchemaEntry.after_eq_field_iff] at htype
      exact absurd htype (by simp)
    · rw [fieldType?, resolve?_merge_of_fieldAbove b a habove]
  · by_contra hnot
    rw [not_or, Option.not_isSome_iff_eq_none] at hnot
    exact hlost ((hkept path hnot.1 hnot.2).trans htype)

/-- A nested schema replaces the field `id`, a field cuts off what was nested under `home`, and the
field `author.born` is kept beside a type that changes. -/
theorem merge_path_by_path_of_clashes :
    let text : SchemaEntry := .field (.ofKind .text)
    let date : SchemaEntry := .field (.ofKind .date)
    let a : Schema := ⟨[("id", text), ("author", .nested ⟨[("name", text), ("born", date)]⟩),
      ("home", .nested ⟨[("city", text)]⟩)]⟩
    let b : Schema := ⟨[("author", .nested ⟨[("name", date)]⟩), ("home", text),
      ("id", .nested ⟨[("part", text)]⟩)]⟩
    b.NamesDistinct ∧ (a.merge b).fieldType? "author.name" = some (.ofKind .date) ∧
      (a.merge b).fieldType? "author.born" = some (.ofKind .date) ∧
      (a.merge b).fieldType? "id" = none ∧ (a.merge b).fieldType? "home.city" = none ∧
      (a.merge b).merge b = a.merge b := by
  intro text date a b
  have hb : b.NamesDistinct := by
    have hflat : ∀ name type, NamesDistinct ⟨[(name, .field type)]⟩ := fun name type =>
      (DistinctSchema.empty.declare name (.field type) (by simp)).namesDistinct
    refine forall_nested_iff.2 ⟨by decide +kernel, fun name inner hmem => ?_⟩
    simp only [b, text, List.mem_cons, Prod.mk.injEq, SchemaEntry.nested.injEq, reduceCtorEq,
      and_false, false_or, or_false, List.not_mem_nil] at hmem
    obtain ⟨-, rfl⟩ | ⟨-, rfl⟩ := hmem <;> exact hflat _ _
  have hname : FieldName.segments "author.name" = ["author", "name"] := by decide +kernel
  have hborn : FieldName.segments "author.born" = ["author", "born"] := by decide +kernel
  have hid : FieldName.segments "id" = ["id"] := by decide +kernel
  have hcity : FieldName.segments "home.city" = ["home", "city"] := by decide +kernel
  obtain ⟨hpaths, -, -, -, htwice⟩ := merge_path_by_path ⟨b, hb⟩ a
  refine ⟨hb, (hpaths _).1 _ ?_, ((hpaths _).2.2 ?_ ?_).trans ?_,
    (hpaths _).2.1 (.inl ⟨⟨[("part", text)]⟩, ?_⟩), (hpaths _).2.1 (.inr ?_), htwice⟩
  · rw [fieldType?_eq_typeAt?, hname]
    rfl
  · rw [resolve?, hborn]
    rfl
  · rw [hborn, fieldAbove_cons_iff]
    have hget : b.get? "author" = some (.nested ⟨[("name", date)]⟩) := rfl
    rintro ⟨-, ⟨type, htype⟩ | ⟨inner, hinner, habove⟩⟩
    · exact absurd (Option.some.inj (hget.symm.trans htype)) (by simp)
    · obtain rfl := SchemaEntry.nested.inj (Option.some.inj (hget.symm.trans hinner))
      exact (fieldAbove_cons_iff.1 habove).1 rfl
  · rw [fieldType?_eq_typeAt?, hborn]
    rfl
  · rw [resolve?, hid]
    rfl
  · rw [hcity, fieldAbove_cons_iff]
    exact ⟨List.cons_ne_nil _ _, .inl ⟨_, rfl⟩⟩

end Schema
end SearchGateway
