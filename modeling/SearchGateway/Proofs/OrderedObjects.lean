import Mathlib.Tactic.Lemma
import SearchGateway.Json.Reader
import SearchGateway.Proofs.Maps

/-!
# Ordered objects

The keys of a JSON object stand in order, and so do the keys of every object inside it, also in
arrays.  An `OrderedObject` is an object with the proof of this.  What objects are built of keeps
the order: the object without fields has it, setting a key keeps it, and so a value that is read
from a text has it (`ordered_of_read?`).  What flattening, unflattening and merging make of ordered
objects is ordered as well; this is stated where the three are proved.
-/
namespace SearchGateway

namespace Json

lemma orderedFields_iff {fields : List (String × Json)} :
    OrderedFields fields ↔ ∀ field ∈ fields, field.2.Ordered := by
  induction fields with
  | nil => simp [OrderedFields]
  | cons field rest ih => simp [OrderedFields, ih]

lemma orderedItems_iff {items : List Json} :
    OrderedItems items ↔ ∀ item ∈ items, item.Ordered := by
  induction items with
  | nil => simp [OrderedItems]
  | cons item rest ih => simp [OrderedItems, ih]

lemma ordered_arr_iff {items : List Json} :
    (Json.arr items).Ordered ↔ ∀ item ∈ items, item.Ordered := by
  rw [Ordered, orderedItems_iff]

lemma ordered_obj_iff {fields : JsonObject} :
    (Json.obj fields).Ordered ↔ fields.Sorted ∧ ∀ field ∈ fields.entries, field.2.Ordered := by
  rw [Ordered, orderedFields_iff]

lemma ordered_empty : (Json.obj .empty).Ordered :=
  ordered_obj_iff.2 ⟨KeyMap.sorted_empty, by simp [KeyMap.empty]⟩

lemma ordered_insert {fields : JsonObject} {key : String} {value : Json}
    (h : (Json.obj fields).Ordered) (hvalue : value.Ordered) :
    (Json.obj (fields.insert key value)).Ordered := by
  rw [ordered_obj_iff] at h ⊢
  refine ⟨h.1.insert key value, fun field hfield => ?_⟩
  rcases KeyMap.mem_insertEntry hfield with rfl | hfield
  · exact hvalue
  · exact h.2 field hfield

lemma ordered_of_get? {fields : JsonObject} {key : String} {value : Json}
    (h : (Json.obj fields).Ordered) (hget : fields.get? key = some value) : value.Ordered :=
  (ordered_obj_iff.1 h).2 _ (KeyMap.mem_of_get?_eq_some hget)

/-! ## Values that are read -/

lemma ordered_of_takeNumber? {cs rest : List Char} {value : Json}
    (h : takeNumber? cs = some (value, rest)) : value.Ordered := by
  rw [takeNumber?] at h
  simp only at h
  split at h
  · cases h
  · split at h
    · cases h
      exact trivial
    · split at h <;> cases h <;> exact trivial

mutual

theorem ordered_of_takeValue? (steps : Nat) {cs rest : List Char} {value : Json}
    (h : takeValue? steps cs = some (value, rest)) : value.Ordered := by
  match steps with
  | 0 => cases h
  | steps + 1 =>
    rw [takeValue?] at h
    split at h
    next => exact ordered_of_takeFields? steps ordered_empty h
    next => exact ordered_of_takeItems? steps (by simp) h
    next =>
      obtain ⟨read, -, heq⟩ := Option.map_eq_some_iff.1 h
      cases heq
      exact trivial
    next => cases h; exact trivial
    next => cases h; exact trivial
    next => cases h; exact trivial
    next => exact ordered_of_takeNumber? h

theorem ordered_of_takeItems? (steps : Nat) {read : List Json} {cs rest : List Char} {value : Json}
    (hread : ∀ item ∈ read, item.Ordered) (h : takeItems? steps read cs = some (value, rest)) :
    value.Ordered := by
  have hdone : ∀ {items : List Json}, (∀ item ∈ items, item.Ordered) →
      (Json.arr items.reverse).Ordered := fun hitems => by simpa [ordered_arr_iff] using hitems
  rw [takeItems?.eq_def] at h
  split at h
  next =>
    cases h
    exact hdone hread
  next => cases h
  next steps _ =>
    obtain ⟨⟨item, after⟩, hitem, h⟩ := Option.bind_eq_some_iff.1 h
    have hmore : ∀ other ∈ item :: read, other.Ordered :=
      List.forall_mem_cons.2 ⟨ordered_of_takeValue? steps hitem, hread⟩
    simp only at h
    split at h
    next => exact ordered_of_takeItems? steps hmore h
    next =>
      cases h
      exact hdone hmore
    next => cases h

theorem ordered_of_takeFields? (steps : Nat) {read : JsonObject} {cs rest : List Char}
    {value : Json} (hread : (Json.obj read).Ordered)
    (h : takeFields? steps read cs = some (value, rest)) : value.Ordered := by
  rw [takeFields?.eq_def] at h
  split at h
  next =>
    cases h
    exact hread
  next steps _ =>
    obtain ⟨⟨key, after⟩, -, h⟩ := Option.bind_eq_some_iff.1 h
    simp only at h
    split at h
    next =>
      obtain ⟨⟨field, more⟩, hfield, h⟩ := Option.bind_eq_some_iff.1 h
      have hinsert : (Json.obj (read.insert key field)).Ordered :=
        ordered_insert hread (ordered_of_takeValue? steps hfield)
      simp only at h
      split at h
      next => exact ordered_of_takeFields? steps hinsert h
      next =>
        cases h
        exact hinsert
      next => cases h
    next => cases h
  next => cases h

end

/-- The objects in a value that is read have their keys in order. -/
theorem ordered_of_read? {text : String} {value : Json} (h : read? text = some value) :
    value.Ordered := by
  obtain ⟨⟨found, rest⟩, hfound, h⟩ := Option.bind_eq_some_iff.1 h
  obtain ⟨-, -, h⟩ := Option.bind_eq_some_iff.1 h
  cases h
  exact ordered_of_takeValue? _ hfound

end Json

/-- An object whose keys stand in order, at every level. -/
structure OrderedObject where
  fields : JsonObject
  ordered : (Json.obj fields).Ordered

namespace OrderedObject

lemma sorted (o : OrderedObject) : o.fields.Sorted := (Json.ordered_obj_iff.1 o.ordered).1

lemma orderedFields (o : OrderedObject) : Json.OrderedFields o.fields.entries :=
  Json.orderedFields_iff.2 (Json.ordered_obj_iff.1 o.ordered).2

end OrderedObject

end SearchGateway
