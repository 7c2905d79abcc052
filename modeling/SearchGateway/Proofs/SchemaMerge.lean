import Mathlib.Data.List.Induction
import Mathlib.Tactic.Lemma
import SearchGateway.Proofs.SchemaPaths

/-!
# Merging schemas, path by path

What a path finds in a merged schema is decided along the path: where both schemas nest a schema
under a name, the two are merged in turn, and everywhere else the later declaration counts
(`typeAt?_merge_cons`).  A path that leads to an entry of the later schema finds it, following what
the earlier schema has at the end of the path.  Where the later schema has a field on the way, the
path is cut off there, and everywhere else it finds what it found in the earlier schema
(`resolveSegments?_merge`).

So nothing is found that is in neither of the two.  Conversely everything is found that is in one
of them, if the two agree on which names nest schemas; otherwise a declaration of the one may
replace what the other has below the name.

The names of a merged schema are distinct if they are in both, and the same goes for what holds of
a name and of whether it nests a schema (`Regular.merge`).  So a `DistinctSchema` is what
declarations and merges build.
-/
namespace SearchGateway

/-- Whether an entry nests a schema. -/
def SchemaEntry.isNested : SchemaEntry → Bool
  | .field _ => false
  | .nested _ => true

lemma SchemaEntry.after_nested_nested (inner earlier : Schema) :
    SchemaEntry.after (.nested inner) (some (.nested earlier)) = .nested (earlier.merge inner) := by
  obtain ⟨rows⟩ := inner
  rw [SchemaEntry.after]
  rfl

lemma SchemaEntry.after_nested {earlier : Option SchemaEntry} (inner : Schema)
    (h : ∀ schema, earlier ≠ some (.nested schema)) :
    SchemaEntry.after (.nested inner) earlier = .nested inner := by
  obtain ⟨rows⟩ := inner
  rw [SchemaEntry.after]
  exact h

@[simp] lemma SchemaEntry.after_none (entry : SchemaEntry) : entry.after none = entry := by
  cases entry with
  | field type => rw [SchemaEntry.after]
  | nested inner => exact SchemaEntry.after_nested inner (by simp)

@[simp] lemma SchemaEntry.isNested_after (entry : SchemaEntry) (earlier : Option SchemaEntry) :
    (entry.after earlier).isNested = entry.isNested := by
  cases entry with
  | field type => rw [SchemaEntry.after]
  | nested inner =>
    rcases earlier with _ | type | schema
    · rw [SchemaEntry.after_nested inner (by simp)]
    · rw [SchemaEntry.after_nested inner (by simp)]
    · rw [SchemaEntry.after_nested_nested]
      rfl

/-- Only the declaration of a field makes a field. -/
lemma SchemaEntry.after_eq_field_iff {entry : SchemaEntry} {earlier : Option SchemaEntry}
    {type : FieldType} : entry.after earlier = .field type ↔ entry = .field type := by
  cases entry with
  | field declared => rw [SchemaEntry.after]
  | nested inner =>
    refine iff_of_false (fun h => ?_) (by simp)
    have hnested := SchemaEntry.isNested_after (.nested inner) earlier
    rw [h] at hnested
    exact absurd hnested (by simp [SchemaEntry.isNested])

namespace Schema

variable {a b schema : Schema} {name : String} {rest names : List String} {type : FieldType}

lemma get?_declare (schema : Schema) (name : String) (entry : SchemaEntry) (wanted : String) :
    (schema.declare name entry).get? wanted =
      if wanted = name then some (entry.after (schema.get? name)) else schema.get? wanted :=
  Table.get?_set _ _ _ _

lemma declareAll_cons (name : String) (entry : SchemaEntry) (rows : List (String × SchemaEntry))
    (schema : Schema) :
    declareAll ((name, entry) :: rows) schema = declareAll rows (schema.declare name entry) := by
  rw [declareAll]
  rfl

/-- Making one declaration is merging with the schema that has only this one. -/
lemma declare_eq_merge (schema : Schema) (name : String) (entry : SchemaEntry) :
    schema.declare name entry = schema.merge ⟨[(name, entry)]⟩ := by
  rw [merge, declareAll_cons, declareAll]

@[simp] lemma merge_empty (schema : Schema) : schema.merge .empty = schema := by
  show declareAll [] schema = schema
  rw [declareAll]

/-- Only a declaration of the name itself changes what is found under it. -/
lemma get?_declareAll {rows : List (String × SchemaEntry)} (hrows : (rows.map Prod.fst).Nodup)
    (schema : Schema) (wanted : String) :
    (declareAll rows schema).get? wanted =
      match rows.lookup wanted with
      | some entry => some (entry.after (schema.get? wanted))
      | none => schema.get? wanted := by
  induction rows generalizing schema with
  | nil =>
    rw [declareAll]
    rfl
  | cons row rest ih =>
    obtain ⟨name, entry⟩ := row
    rw [List.map_cons, List.nodup_cons] at hrows
    rw [declareAll_cons, ih hrows.2, get?_declare, lookup_cons_eq_ite]
    by_cases hname : wanted = name
    · -- the name is not declared again
      subst hname
      simp [lookup_eq_none_of_not_mem hrows.1]
    · simp [hname]

lemma get?_merge (hb : b.Distinct) (a : Schema) (wanted : String) :
    (a.merge b).get? wanted =
      match b.get? wanted with
      | some entry => some (entry.after (a.get? wanted))
      | none => a.get? wanted :=
  get?_declareAll hb a wanted

/-- A path into a merged schema follows the later schema, and both of them through names under
which both nest a schema. -/
theorem typeAt?_merge_cons (hb : b.Distinct) (a : Schema) (name : String) (rest : List String) :
    (a.merge b).typeAt? (name :: rest) =
      match b.get? name with
      | none => a.typeAt? (name :: rest)
      | some (.field type) => if rest = [] then some type else none
      | some (.nested inner) =>
        match a.get? name with
        | some (.nested earlier) => typeAt? (merge earlier inner) rest
        | _ => typeAt? inner rest := by
  rw [typeAt?_cons, get?_merge hb]
  rcases b.get? name with _ | type | inner
  · rw [typeAt?_cons]
  · simp [SchemaEntry.after]
  · rcases ha : a.get? name with _ | type | earlier
    · simp
    · simp [SchemaEntry.after_nested]
    · simp [SchemaEntry.after_nested_nested]

/-- Some names lead through a field and so cannot lead anywhere. -/
def FieldAbove (schema : Schema) (names : List String) : Prop :=
  ∃ front, front <+: names ∧ front ≠ names ∧ (schema.typeAt? front).isSome

lemma not_fieldAbove_nil : ¬ schema.FieldAbove [] := by
  rintro ⟨front, hpre, hne, -⟩
  exact hne (List.prefix_nil.1 hpre)

/-- The first name leads to a field, or to a schema in which there is a field on the way. -/
lemma fieldAbove_cons_iff :
    schema.FieldAbove (name :: rest) ↔
      rest ≠ [] ∧ ((∃ type, schema.get? name = some (.field type)) ∨
        ∃ inner, schema.get? name = some (.nested inner) ∧ FieldAbove inner rest) := by
  constructor
  · rintro ⟨front, hpre, hne, hsome⟩
    rcases front with _ | ⟨first, front⟩
    · exact absurd hsome (by simp [typeAt?_nil])
    obtain ⟨rfl, hfront⟩ := List.cons_prefix_cons.1 hpre
    have hne' : front ≠ rest := fun heq => hne (congrArg _ heq)
    refine ⟨?_, ?_⟩
    · rintro rfl
      exact hne' (List.prefix_nil.1 hfront)
    · rw [typeAt?_cons] at hsome
      rcases hget : schema.get? first with _ | type | inner
      · simp [hget] at hsome
      · exact .inl ⟨type, rfl⟩
      · simp only [hget] at hsome
        exact .inr ⟨inner, rfl, front, hfront, hne', hsome⟩
  · rintro ⟨hrest, ⟨type, hget⟩ | ⟨inner, hget, front, hfront, hne, hsome⟩⟩
    · refine ⟨[name], by simp, fun heq => hrest (List.cons.inj heq).2.symm, ?_⟩
      simp [typeAt?_cons, hget]
    · refine ⟨name :: front, List.cons_prefix_cons.2 ⟨rfl, hfront⟩,
        fun heq => hne (List.cons.inj heq).2, ?_⟩
      simpa only [typeAt?_cons, hget] using hsome

/-- Below a field there is nothing. -/
lemma resolveSegments?_of_fieldAbove (h : schema.FieldAbove names) :
    schema.resolveSegments? names = none := by
  induction names generalizing schema with
  | nil => exact absurd h not_fieldAbove_nil
  | cons name rest ih =>
    obtain ⟨hrest, hfirst⟩ := fieldAbove_cons_iff.1 h
    rw [resolveSegments?_cons, if_neg hrest]
    rcases hfirst with ⟨type, hget⟩ | ⟨inner, hget, habove⟩
    · rw [hget]
    · rw [hget]
      exact ih habove

open Classical in
/-- **A path into a merged schema** finds an entry of the later schema, following what it finds in
the earlier one; otherwise it finds what is in the earlier one, unless there is a field of the later
schema on the way. -/
theorem resolveSegments?_merge (hb : b.NamesDistinct) (a : Schema) (names : List String) :
    (a.merge b).resolveSegments? names =
      match b.resolveSegments? names with
      | some entry => some (entry.after (a.resolveSegments? names))
      | none => if b.FieldAbove names then none else a.resolveSegments? names := by
  induction names generalizing a b with
  | nil => simp [resolveSegments?, not_fieldAbove_nil]
  | cons name rest ih =>
    rw [resolveSegments?_cons, resolveSegments?_cons b, resolveSegments?_cons a,
      get?_merge hb.distinct]
    simp only [fieldAbove_cons_iff]
    by_cases hrest : rest = []
    · -- the path ends here, so it does not lead through anything
      simp only [hrest, if_true, ne_eq, not_true_eq_false, false_and, if_false]
    · rcases hbget : b.get? name with _ | type | inner
      · simp [hrest]
      · simp [hrest, SchemaEntry.after]
      · have hinner := hb.nested (mem_of_lookup_eq_some hbget)
        rcases haget : a.get? name with _ | type | earlier
        · simp only [hrest, if_false, SchemaEntry.after_none]
          cases resolveSegments? inner rest <;> simp
        · have hafter : SchemaEntry.after (.nested inner) (some (.field type)) = .nested inner :=
            SchemaEntry.after_nested inner (by simp)
          simp only [hrest, if_false, hafter]
          cases resolveSegments? inner rest <;> simp
        · simp only [hrest, if_false, SchemaEntry.after_nested_nested, ih hinner]
          simp [hrest]

/-- Nothing is found in a merged schema that is in neither of the two. -/
theorem typeAt?_of_merge (hb : b.NamesDistinct) (h : (a.merge b).typeAt? names = some type) :
    a.typeAt? names = some type ∨ b.typeAt? names = some type := by
  rw [typeAt?_eq_some_iff, resolveSegments?_merge hb] at h
  rw [typeAt?_eq_some_iff, typeAt?_eq_some_iff]
  rcases hfound : b.resolveSegments? names with _ | entry
  · by_cases habove : b.FieldAbove names
    · simp [hfound, habove] at h
    · simp only [hfound, habove, if_false] at h
      exact .inl h
  · simp only [hfound, Option.some.injEq, SchemaEntry.after_eq_field_iff] at h
    exact .inr (congrArg some h)

/-! ## Regular schemas -/

/-- At every level the names are distinct, and `Q` holds of every name and of whether it nests a
schema. -/
def Regular (Q : String → Bool → Prop) (schema : Schema) : Prop :=
  ∀ e, Nested schema e → e.Distinct ∧ ∀ row ∈ e.rows, Q row.1 row.2.isNested

/-- The names are distinct at every level, and the name of a declaration tells whether it nests a
schema. -/
abbrev Shaped (nests : String → Bool) (schema : Schema) : Prop :=
  schema.Regular fun name nested => nested = nests name

variable {Q : String → Bool → Prop} {nests : String → Bool}

lemma Regular.namesDistinct (h : schema.Regular Q) : schema.NamesDistinct :=
  fun e he => (h e he).1

lemma Regular.distinct (h : schema.Regular Q) : schema.Distinct :=
  h.namesDistinct.distinct

lemma Regular.nested {inner : Schema} (h : schema.Regular Q)
    (hmem : (name, .nested inner) ∈ schema.rows) : inner.Regular Q :=
  fun e he => h e (.row hmem he)

lemma Regular.holds {entry : SchemaEntry} (h : schema.Regular Q)
    (hget : schema.get? name = some entry) : Q name entry.isNested :=
  (h schema (.self schema)).2 _ (mem_of_lookup_eq_some hget)

lemma regular_empty : Regular Q .empty :=
  forall_nested_iff.2 ⟨⟨List.nodup_nil, by simp [Table.empty]⟩, by simp [Table.empty]⟩

/-- A declaration keeps a schema regular, if it may be made under its name and what it nests is
regular itself. -/
lemma Regular.set {entry : SchemaEntry} (h : schema.Regular Q) (hentry : Q name entry.isNested)
    (hinner : ∀ inner, entry = .nested inner → Regular Q inner) :
    Regular Q (schema.set name entry) := by
  refine forall_nested_iff.2 ⟨⟨h.distinct.set name entry, fun row hrow => ?_⟩, ?_⟩
  · rcases Table.mem_rows_set hrow with rfl | hold
    · exact hentry
    · exact (h schema (.self schema)).2 row hold
  · intro name' inner hrow
    rcases Table.mem_rows_set hrow with heq | hold
    · exact hinner inner (congrArg Prod.snd heq).symm
    · exact h.nested hold

end Schema

mutual

theorem SchemaEntry.regular_of_after_eq {Q : String → Bool → Prop} (entry : SchemaEntry)
    (hentry : ∀ inner, entry = .nested inner → Schema.Regular Q inner)
    (earlier : Option SchemaEntry)
    (hearlier : ∀ schema, earlier = some (.nested schema) → Schema.Regular Q schema)
    {inner : Schema} (h : entry.after earlier = .nested inner) : Schema.Regular Q inner := by
  match entry with
  | .field type => exact absurd h (by simp [SchemaEntry.after])
  | .nested ⟨rows⟩ =>
    rcases earlier with _ | type | schema
    · rw [SchemaEntry.after_nested _ (by simp)] at h
      exact hentry inner h
    · rw [SchemaEntry.after_nested _ (by simp)] at h
      exact hentry inner h
    · rw [SchemaEntry.after_nested_nested, SchemaEntry.nested.injEq] at h
      have hrows := hentry ⟨rows⟩ rfl
      rw [← h]
      exact Schema.regular_declareAll rows (hrows _ (.self _)).2 (fun _ _ hmem => hrows.nested hmem)
        (hearlier schema rfl)

theorem Schema.regular_declareAll {Q : String → Bool → Prop} (rows : List (String × SchemaEntry))
    (hrows : ∀ row ∈ rows, Q row.1 row.2.isNested)
    (hinner : ∀ name inner, (name, .nested inner) ∈ rows → Schema.Regular Q inner)
    {schema : Schema} (h : schema.Regular Q) : (Schema.declareAll rows schema).Regular Q := by
  match rows with
  | [] =>
    rw [Schema.declareAll]
    exact h
  | (name, entry) :: rest =>
    have hfirst : Q name (entry.after (schema.get? name)).isNested := by
      rw [SchemaEntry.isNested_after]
      exact hrows (name, entry) List.mem_cons_self
    have hset : (schema.declare name entry).Regular Q := by
      refine h.set hfirst fun inner hafter => ?_
      refine SchemaEntry.regular_of_after_eq entry ?_ (schema.get? name) ?_ hafter
      · rintro inner rfl
        exact hinner name inner List.mem_cons_self
      · exact fun earlier hget => h.nested (mem_of_lookup_eq_some hget)
    rw [Schema.declareAll_cons]
    exact Schema.regular_declareAll rest (fun row hrow => hrows row (List.mem_cons_of_mem _ hrow))
      (fun other inner hmem => hinner other inner (List.mem_cons_of_mem _ hmem)) hset

end

namespace Schema

variable {a b : Schema} {names : List String} {type : FieldType} {Q : String → Bool → Prop}
  {nests : String → Bool} {schemas : List Schema}

theorem Regular.merge (ha : a.Regular Q) (hb : b.Regular Q) : (a.merge b).Regular Q :=
  regular_declareAll b.rows (hb b (.self b)).2 (fun _ _ hmem => hb.nested hmem) ha

lemma NamesDistinct.regular (h : a.NamesDistinct) : a.Regular fun _ _ => True :=
  fun e he => ⟨h e he, fun _ _ => trivial⟩

/-- Where two schemas agree on the names that nest schemas, all that is found in one of them is
found in the merged schema, though perhaps with the type from the other. -/
theorem isSome_typeAt?_merge (ha : a.Shaped nests) (hb : b.Shaped nests)
    (h : (a.typeAt? names).isSome ∨ (b.typeAt? names).isSome) :
    ((a.merge b).typeAt? names).isSome := by
  induction names generalizing a b with
  | nil => simp [typeAt?_nil] at h
  | cons name rest ih =>
    rw [typeAt?_merge_cons hb.distinct]
    rw [typeAt?_cons b] at h
    rcases hbget : b.get? name with _ | declared | inner
    · simpa [hbget] using h
    · have hfield : false = nests name := hb.holds hbget
      by_cases hrest : rest = []
      · simp [hrest]
      · -- the path goes on below the name, so it cannot lead into the other schema
        rcases haget : a.get? name with _ | declared' | earlier
        · simp [typeAt?_cons, hbget, haget, hrest] at h
        · simp [typeAt?_cons, hbget, haget, hrest] at h
        · have hnests : true = nests name := ha.holds haget
          exact absurd (hfield.trans hnests.symm) (by simp)
    · have hnests : true = nests name := hb.holds hbget
      rcases haget : a.get? name with _ | declared' | earlier
      · simpa [typeAt?_cons, hbget, haget] using h
      · have hfield : false = nests name := ha.holds haget
        exact absurd (hfield.trans hnests.symm) (by simp)
      · simp only [typeAt?_cons, hbget, haget] at h
        exact ih (ha.nested (mem_of_lookup_eq_some haget))
          (hb.nested (mem_of_lookup_eq_some hbget)) h

/-- A schema with one declaration finds what the declaration has below its name. -/
lemma typeAt?_singleton_cons (name : String) (entry : SchemaEntry) (first : String)
    (rest : List String) :
    typeAt? ⟨[(name, entry)]⟩ (first :: rest) =
      if first = name then
        match entry with
        | .field type => if rest = [] then some type else none
        | .nested inner => typeAt? inner rest
      else none := by
  have hget : Table.get? ⟨[(name, entry)]⟩ first = if first = name then some entry else none :=
    lookup_cons_eq_ite name entry [] first
  rw [typeAt?_cons, hget]
  by_cases h : first = name
  · rw [if_pos h, if_pos h]
    cases entry <;> rfl
  · rw [if_neg h, if_neg h]

lemma regular_singleton {name : String} {entry : SchemaEntry} (hentry : Q name entry.isNested)
    (hinner : ∀ inner, entry = .nested inner → Regular Q inner) :
    Regular Q ⟨[(name, entry)]⟩ :=
  regular_empty.set hentry hinner

/-! ## Merging many schemas -/

/-- The schemas merged one after the other. -/
def mergeAll (schemas : List Schema) : Schema := schemas.foldl merge .empty

lemma mergeAll_append_singleton (schemas : List Schema) (schema : Schema) :
    mergeAll (schemas ++ [schema]) = (mergeAll schemas).merge schema := by
  rw [mergeAll, List.foldl_append]
  rfl

theorem regular_mergeAll (h : ∀ schema ∈ schemas, Regular Q schema) :
    (mergeAll schemas).Regular Q := by
  induction schemas using List.reverseRecOn with
  | nil => exact regular_empty
  | append_singleton schemas schema ih =>
    rw [List.forall_mem_append, List.forall_mem_singleton] at h
    rw [mergeAll_append_singleton]
    exact (ih h.1).merge h.2

/-- What is found in merged schemas is found in one of them. -/
theorem exists_of_typeAt?_mergeAll (hdistinct : ∀ schema ∈ schemas, NamesDistinct schema)
    (h : (mergeAll schemas).typeAt? names = some type) :
    ∃ schema ∈ schemas, typeAt? schema names = some type := by
  induction schemas using List.reverseRecOn with
  | nil =>
    cases names with
    | nil => exact absurd h (by simp [typeAt?_nil])
    | cons name rest => exact absurd h (by simp [typeAt?_cons, mergeAll, Table.get?, Table.empty])
  | append_singleton schemas schema ih =>
    rw [List.forall_mem_append, List.forall_mem_singleton] at hdistinct
    rw [mergeAll_append_singleton] at h
    rcases typeAt?_of_merge hdistinct.2 h with hbefore | hlast
    · obtain ⟨found, hmem, hfound⟩ := ih hdistinct.1 hbefore
      exact ⟨found, List.mem_append_left _ hmem, hfound⟩
    · exact ⟨schema, by simp, hlast⟩

/-- What is found in one of the schemas is found after they were merged. -/
theorem isSome_typeAt?_mergeAll (hshaped : ∀ schema ∈ schemas, Shaped nests schema)
    {schema : Schema} (hmem : schema ∈ schemas) (h : (schema.typeAt? names).isSome) :
    ((mergeAll schemas).typeAt? names).isSome := by
  induction schemas using List.reverseRecOn with
  | nil => simp at hmem
  | append_singleton schemas last ih =>
    rw [List.forall_mem_append, List.forall_mem_singleton] at hshaped
    rw [mergeAll_append_singleton]
    refine isSome_typeAt?_merge (regular_mergeAll hshaped.1) hshaped.2 ?_
    rw [List.mem_append, List.mem_singleton] at hmem
    rcases hmem with hbefore | rfl
    · exact .inl (ih hshaped.1 hbefore)
    · exact .inr h

end Schema

/-! ## What distinct schemas are built by -/

namespace DistinctSchema

/-- The schema without declarations. -/
def empty : DistinctSchema where
  schema := .empty
  namesDistinct := Schema.forall_nested_iff.2 ⟨Table.distinct_empty, by simp [Table.empty]⟩

/-- Makes one declaration; a schema that it nests is distinct itself. -/
def declare (s : DistinctSchema) (name : String) (entry : SchemaEntry)
    (h : ∀ inner, entry = .nested inner → Schema.NamesDistinct inner) : DistinctSchema where
  schema := s.schema.declare name entry
  namesDistinct := by
    have hentry : Schema.Regular (fun _ _ => True) ⟨[(name, entry)]⟩ :=
      Schema.regular_singleton trivial fun inner hinner => (h inner hinner).regular
    rw [Schema.declare_eq_merge]
    exact (s.namesDistinct.regular.merge hentry).namesDistinct

/-- Makes all the declarations of another schema. -/
def merge (a b : DistinctSchema) : DistinctSchema where
  schema := a.schema.merge b.schema
  namesDistinct := (a.namesDistinct.regular.merge b.namesDistinct.regular).namesDistinct

end DistinctSchema
end SearchGateway
