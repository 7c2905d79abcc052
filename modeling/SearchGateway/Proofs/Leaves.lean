import Mathlib.Data.List.Pairwise
import Mathlib.Tactic.Lemma
import SearchGateway.Document.Flat
import SearchGateway.Proofs.FlatNames
import SearchGateway.Proofs.OrderedObjects

/-!
# The leaves of a JSON object

A leaf of an object is a value inside it that is no object, together with the keys on the way
to it; arrays are leaves and are not entered.  Flattening an object sets the leaves one after
the other under the names that their keys are joined to (`flatten_eq_ofList`).

No leaf stands on the way to another, so the paths of two leaves are *apart*: none continues
the other.  Where the keys of an object are separable, the paths of its leaves are separable
too, and then the flat names of the leaves are all different.
-/
namespace SearchGateway

namespace Json

@[simp] lemma isObject_obj (d : JsonObject) : (Json.obj d).isObject = true := rfl

@[simp] lemma at?_nil (j : Json) : j.at? [] = some j := by rw [at?]

@[simp] lemma at?_cons (j : Json) (key : String) (rest : List String) :
    j.at? (key :: rest) = (j.get? key).bind (·.at? rest) := by rw [at?]

end Json

namespace Document

/-- A leaf, seen from the object that has its object at a key. -/
def under (key : String) (leaf : List String × Json) : List String × Json :=
  (key :: leaf.1, leaf.2)

/-- A leaf under its flat name. -/
def named (leaf : List String × Json) : String × Json := (FieldName.joined leaf.1, leaf.2)

mutual

/-- The leaves of a value; a value that is no object is its own leaf. -/
def leaves (value : Json) : List (List String × Json) :=
  match value with
  | .obj ⟨fields⟩ => fieldLeaves fields
  | value => [([], value)]

/-- The leaves of the fields of an object. -/
def fieldLeaves : List (String × Json) → List (List String × Json)
  | [] => []
  | (key, value) :: rest => (leaves value).map (under key) ++ fieldLeaves rest

end

lemma leaves_of_isObject_eq_false {value : Json} (h : value.isObject = false) :
    leaves value = [([], value)] := by
  cases value with
  | obj fields => exact absurd h (by simp)
  | _ => rfl

lemma mem_fieldLeaves {fields : List (String × Json)} {leaf : List String × Json} :
    leaf ∈ fieldLeaves fields ↔
      ∃ field ∈ fields, ∃ inner ∈ leaves field.2, under field.1 inner = leaf := by
  induction fields with
  | nil => simp [fieldLeaves]
  | cons field rest ih => simp [fieldLeaves, ih]

lemma path_ne_nil_of_mem_fieldLeaves {fields : List (String × Json)}
    {leaf : List String × Json} (h : leaf ∈ fieldLeaves fields) : leaf.1 ≠ [] := by
  obtain ⟨field, -, inner, -, rfl⟩ := mem_fieldLeaves.1 h
  exact List.cons_ne_nil _ _

mutual

theorem isObject_of_mem_leaves (value : Json) {leaf : List String × Json}
    (h : leaf ∈ leaves value) : leaf.2.isObject = false := by
  match value with
  | .obj ⟨fields⟩ =>
    rw [leaves] at h
    exact isObject_of_mem_fieldLeaves fields h
  | .null | .bool _ | .int _ | .float _ | .str _ | .arr _ =>
    rw [leaves_of_isObject_eq_false rfl, List.mem_singleton] at h
    subst h
    rfl

theorem isObject_of_mem_fieldLeaves (fields : List (String × Json))
    {leaf : List String × Json} (h : leaf ∈ fieldLeaves fields) :
    leaf.2.isObject = false := by
  match fields with
  | [] => simp [fieldLeaves] at h
  | (key, value) :: rest =>
    rw [fieldLeaves, List.mem_append, List.mem_map] at h
    rcases h with ⟨inner, hinner, rfl⟩ | hrest
    · have hvalue := isObject_of_mem_leaves value hinner
      exact hvalue
    · exact isObject_of_mem_fieldLeaves rest hrest

end

/-! ## Flattening -/

mutual

theorem flattenValue_eq (name : String) (value : Json) (flat : JsonObject) :
    flattenValue name value flat =
      flat.insertAll ((leaves value).map fun leaf => named (under name leaf)) := by
  match value with
  | .obj ⟨fields⟩ =>
    rw [flattenValue, flattenFields_eq, leaves]
    rfl
  | .null | .bool _ | .int _ | .float _ | .str _ | .arr _ => rfl

theorem flattenFields_eq (parent : Option String) (fields : List (String × Json))
    (flat : JsonObject) :
    flattenFields parent fields flat =
      flat.insertAll
        ((fieldLeaves fields).map fun leaf => named (parent.toList ++ leaf.1, leaf.2)) := by
  match fields with
  | [] => rfl
  | (key, value) :: rest =>
    rw [flattenFields, flattenFields_eq parent rest, flattenValue_eq, fieldLeaves]
    simp only [KeyMap.insertAll, List.map_append, List.foldl_append, List.map_map,
      Function.comp_def, named, under, FieldName.joined_below]

end

/-- Flattening sets the leaves of an object under their flat names. -/
theorem flatten_eq_ofList (d : JsonObject) :
    flatten d = .ofList ((fieldLeaves d.entries).map named) :=
  flattenFields_eq none d.entries .empty

lemma nodup_keys_flatten (fields : JsonObject) : (flatten fields).keys.Nodup := by
  rw [flatten_eq_ofList]
  exact (KeyMap.sorted_ofList _).nodup_keys

lemma isObject_of_mem_flatten {d : JsonObject} {entry : String × Json}
    (h : entry ∈ (flatten d).entries) : entry.2.isObject = false := by
  rw [flatten_eq_ofList, KeyMap.ofList_eq_insertAll] at h
  rcases KeyMap.mem_insertAll h with h | h
  · obtain ⟨leaf, hleaf, rfl⟩ := List.mem_map.1 h
    exact isObject_of_mem_fieldLeaves d.entries hleaf
  · exact absurd h (by simp [KeyMap.empty])

/-! ## Paths of leaves -/

/-- Neither of two paths continues the other. -/
def Apart (p q : List String) : Prop := ¬ p <+: q ∧ ¬ q <+: p

instance : Std.Symm Apart := ⟨fun _ _ h => ⟨h.2, h.1⟩⟩

lemma Apart.cons {p q : List String} (h : Apart p q) (key : String) :
    Apart (key :: p) (key :: q) := by
  simpa [Apart, List.cons_prefix_cons] using h

lemma apart_of_ne {key key' : String} (h : key ≠ key') (p q : List String) :
    Apart (key :: p) (key' :: q) := by
  simp [Apart, List.cons_prefix_cons, h, Ne.symm h]

mutual

theorem pairwise_leaves (value : Json) (h : value.Ordered) :
    (leaves value).Pairwise fun a b => Apart a.1 b.1 := by
  match value with
  | .obj ⟨fields⟩ =>
    rw [Json.Ordered] at h
    rw [leaves]
    exact pairwise_fieldLeaves fields h.1 h.2
  | .null | .bool _ | .int _ | .float _ | .str _ | .arr _ =>
    rw [leaves_of_isObject_eq_false rfl]
    exact List.pairwise_singleton _ _

theorem pairwise_fieldLeaves (fields : List (String × Json))
    (hkeys : fields.Pairwise fun a b => a.1 < b.1) (h : Json.OrderedFields fields) :
    (fieldLeaves fields).Pairwise fun a b => Apart a.1 b.1 := by
  match fields with
  | [] => exact List.Pairwise.nil
  | (key, value) :: rest =>
    rw [Json.OrderedFields] at h
    rw [List.pairwise_cons] at hkeys
    rw [fieldLeaves, List.pairwise_append]
    refine ⟨?_, pairwise_fieldLeaves rest hkeys.2 h.2, ?_⟩
    · exact List.pairwise_map.2 ((pairwise_leaves value h.1).imp fun hab => hab.cons key)
    · -- paths of different fields differ at their first key
      intro a ha b hb
      obtain ⟨inner, -, rfl⟩ := List.mem_map.1 ha
      obtain ⟨field, hfield, inner', -, rfl⟩ := mem_fieldLeaves.1 hb
      have hne : key ≠ field.1 := by
        rintro rfl
        exact String.lt_irrefl _ (hkeys.1 field hfield)
      exact apart_of_ne hne _ _

end

/-! ## Objects inside an object -/

/-- The objects inside an object, itself among them; arrays are not entered. -/
inductive Within : JsonObject → JsonObject → Prop
  | self (d : JsonObject) : Within d d
  | field {d inner e : JsonObject} {key : String} (hmem : (key, .obj inner) ∈ d.entries)
      (h : Within inner e) : Within d e

/-- The keys inside an object can be joined and cut again: none has the delimiter, and none
that leads to an object ends with an underscore. -/
structure SeparableKeys (d : JsonObject) : Prop where
  noDelimiter : ∀ e, Within d e → ∀ key ∈ e.keys, ¬ FieldName.HasDelimiter key
  noUnderscore : ∀ e, Within d e → ∀ key inner, (key, .obj inner) ∈ e.entries →
    ¬ FieldName.EndsWithUnderscore key

/-- The normal form of nested objects: the keys are separable, and no object below the top is
empty. -/
structure Normal (d : JsonObject) : Prop extends SeparableKeys d where
  noEmpty : ∀ e, Within d e → ∀ key inner, (key, .obj inner) ∈ e.entries → inner.entries ≠ []

lemma SeparableKeys.within {d e : JsonObject} (h : SeparableKeys d)
    (hwithin : ∀ f, Within e f → Within d f) : SeparableKeys e :=
  ⟨fun f hf => h.noDelimiter f (hwithin f hf), fun f hf => h.noUnderscore f (hwithin f hf)⟩

lemma SeparableKeys.inner {d inner : JsonObject} {key : String} (h : SeparableKeys d)
    (hmem : (key, .obj inner) ∈ d.entries) : SeparableKeys inner :=
  h.within fun _ => .field hmem

lemma SeparableKeys.not_hasDelimiter {d : JsonObject} {entry : String × Json}
    (h : SeparableKeys d) (hmem : entry ∈ d.entries) : ¬ FieldName.HasDelimiter entry.1 :=
  h.noDelimiter d (.self d) entry.1 (List.mem_map_of_mem hmem)

mutual

theorem separable_of_mem_leaves (value : Json) {key : String}
    (hkey : ¬ FieldName.HasDelimiter key)
    (h : ∀ inner, value = .obj inner → ¬ FieldName.EndsWithUnderscore key ∧ SeparableKeys inner)
    {leaf : List String × Json} (hleaf : leaf ∈ leaves value) :
    FieldName.Separable (key :: leaf.1) := by
  match value with
  | .obj ⟨fields⟩ =>
    obtain ⟨hend, hinner⟩ := h ⟨fields⟩ rfl
    rw [leaves] at hleaf
    have hrest := separable_of_mem_fieldLeaves fields hinner (fun _ => id) hleaf
    obtain ⟨field, -, inner, -, rfl⟩ := mem_fieldLeaves.1 hleaf
    exact ⟨hkey, hend, hrest⟩
  | .null | .bool _ | .int _ | .float _ | .str _ | .arr _ =>
    rw [leaves_of_isObject_eq_false rfl, List.mem_singleton] at hleaf
    subst hleaf
    exact hkey

theorem separable_of_mem_fieldLeaves (fields : List (String × Json)) {d : JsonObject}
    (h : SeparableKeys d) (hsub : ∀ field ∈ fields, field ∈ d.entries)
    {leaf : List String × Json} (hleaf : leaf ∈ fieldLeaves fields) :
    FieldName.Separable leaf.1 := by
  match fields with
  | [] => simp [fieldLeaves] at hleaf
  | (key, value) :: rest =>
    rw [fieldLeaves, List.mem_append, List.mem_map] at hleaf
    have hmem : (key, value) ∈ d.entries := hsub _ List.mem_cons_self
    rcases hleaf with ⟨inner, hinner, rfl⟩ | hrest
    · refine separable_of_mem_leaves value (h.not_hasDelimiter hmem) ?_ hinner
      rintro e rfl
      exact ⟨h.noUnderscore d (.self d) key e hmem, h.inner hmem⟩
    · exact separable_of_mem_fieldLeaves rest h
        (fun field hfield => hsub field (List.mem_cons_of_mem _ hfield)) hrest

end

/-- The leaves of an object with separable keys have different flat names. -/
theorem nodup_names_of_separableKeys (d : OrderedObject) (h : SeparableKeys d.fields) :
    (((fieldLeaves d.fields.entries).map named).map Prod.fst).Nodup := by
  have hapart := pairwise_fieldLeaves d.fields.entries d.sorted d.orderedFields
  rw [List.map_map, List.nodup_iff_pairwise_ne, List.pairwise_map]
  refine hapart.imp_of_mem fun {a b} ha hb hab heq => hab.1 ?_
  have hpath : a.1 = b.1 :=
    FieldName.joined_injective (path_ne_nil_of_mem_fieldLeaves ha)
      (path_ne_nil_of_mem_fieldLeaves hb) (separable_of_mem_fieldLeaves _ h (fun _ => id) ha)
      (separable_of_mem_fieldLeaves _ h (fun _ => id) hb) heq
  exact hpath ▸ List.prefix_rfl

end Document

end SearchGateway
