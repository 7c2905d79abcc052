import Mathlib.Tactic.Lemma
import SearchGateway.Document.Value
import SearchGateway.Proofs.Leaves

/-!
# Documents as JSON objects

The JSON object of a document has its keys in order at every level, whatever the order of the
fields of the document (`ordered_toJson`).  Its nested objects are those of the nested
documents, so that names which can be joined and cut again become keys which can
(`SeparableNames.separableKeys`).
-/
namespace SearchGateway

/-! ## Order -/

namespace FieldValue

lemma ordered_doubleJson (x : Float) : (doubleJson x).Ordered := by
  rw [doubleJson]
  split <;> exact trivial

mutual

theorem ordered_toJson (value : FieldValue) : value.toJson.Ordered := by
  match value with
  | .null | .bool _ | .integer _ | .text _ | .date _ => exact trivial
  | .double x => exact ordered_doubleJson x
  | .list items =>
    rw [toJson, Json.Ordered]
    exact orderedItems_itemsToJson items
  | .nested ⟨rows⟩ =>
    rw [toJson]
    exact ordered_rowsToJson rows Json.ordered_empty

theorem orderedItems_itemsToJson (items : List FieldValue) :
    Json.OrderedItems (itemsToJson items) := by
  match items with
  | [] => exact trivial
  | item :: rest =>
    rw [itemsToJson, Json.OrderedItems]
    exact ⟨ordered_toJson item, orderedItems_itemsToJson rest⟩

theorem ordered_rowsToJson (rows : List (String × FieldValue)) {fields : JsonObject}
    (h : (Json.obj fields).Ordered) : (Json.obj (rowsToJson rows fields)).Ordered := by
  match rows with
  | [] => exact h
  | (name, value) :: rest =>
    rw [rowsToJson]
    exact ordered_rowsToJson rest (Json.ordered_insert h (ordered_toJson value))

end

lemma mem_rowsToJson {rows : List (String × FieldValue)} {fields : JsonObject}
    {entry : String × Json} (h : entry ∈ (rowsToJson rows fields).entries) :
    (∃ row ∈ rows, entry = (row.1, row.2.toJson)) ∨ entry ∈ fields.entries := by
  induction rows generalizing fields with
  | nil => exact .inr h
  | cons row rest ih =>
    rw [rowsToJson] at h
    rcases ih h with ⟨row', hrow', rfl⟩ | h
    · exact .inl ⟨row', List.mem_cons_of_mem _ hrow', rfl⟩
    · rcases KeyMap.mem_insertEntry h with rfl | h
      · exact .inl ⟨row, List.mem_cons_self, rfl⟩
      · exact .inr h

/-- Only nested documents become objects. -/
lemma eq_nested_of_toJson_eq_obj {value : FieldValue} {fields : JsonObject}
    (h : value.toJson = .obj fields) : ∃ d : Document, value = .nested d ∧ fields = d.toJson := by
  cases value with
  | nested d => exact ⟨d, rfl, (Json.obj.inj h).symm⟩
  | double x =>
    rw [toJson, doubleJson] at h
    split at h <;> cases h
  | _ => cases h

end FieldValue

namespace Document

/-- The keys of the JSON object of a document stand in order, at every level. -/
theorem ordered_toJson (d : Document) : (Json.obj d.toJson).Ordered :=
  FieldValue.ordered_rowsToJson d.rows Json.ordered_empty

/-- The JSON object of a document, with its keys in order. -/
def orderedJson (d : Document) : OrderedObject := ⟨d.toJson, d.ordered_toJson⟩

lemma mem_toJson {d : Document} {entry : String × Json} (h : entry ∈ d.toJson.entries) :
    ∃ row ∈ d.rows, entry = (row.1, row.2.toJson) := by
  rcases FieldValue.mem_rowsToJson h with h | h
  · exact h
  · exact absurd h List.not_mem_nil

/-! ## Names -/

/-- The documents nested in a document, itself among them; lists are not entered. -/
inductive Nested : Document → Document → Prop
  | self (d : Document) : Nested d d
  | row {d inner e : Document} {name : String} (hmem : (name, .nested inner) ∈ d.rows)
      (h : Nested inner e) : Nested d e

/-- The names inside a document can be joined and cut again: none has the delimiter, and none
of a nested document ends with an underscore. -/
structure SeparableNames (d : Document) : Prop where
  noDelimiter : ∀ e, Nested d e → ∀ name ∈ e.names, ¬ FieldName.HasDelimiter name
  noUnderscore : ∀ e, Nested d e → ∀ name inner, (name, .nested inner) ∈ e.rows →
    ¬ FieldName.EndsWithUnderscore name

/-- The names inside a document are separable when they are in each of its rows. -/
lemma separableNames_of_rows {d : Document}
    (hnames : ∀ row ∈ d.rows, ¬ FieldName.HasDelimiter row.1)
    (hnested : ∀ name inner, (name, .nested inner) ∈ d.rows →
      ¬ FieldName.EndsWithUnderscore name ∧ SeparableNames inner) : SeparableNames d := by
  constructor
  · intro e he name hname
    cases he with
    | self =>
      obtain ⟨row, hrow, rfl⟩ := List.mem_map.1 hname
      exact hnames row hrow
    | row hmem he => exact (hnested _ _ hmem).2.noDelimiter e he name hname
  · intro e he name inner hinner
    cases he with
    | self => exact (hnested name inner hinner).1
    | row hmem he => exact (hnested _ _ hmem).2.noUnderscore e he name inner hinner

/-- The objects inside the JSON object of a document come from its nested documents. -/
lemma exists_nested_of_within {d : Document} {fields e : JsonObject} (h : Within fields e)
    (hd : fields = d.toJson) : ∃ d', Nested d d' ∧ e = d'.toJson := by
  -- `Within` starts at the outer object, so the document to start from changes with it
  induction h generalizing d with
  | self => exact ⟨d, .self d, hd⟩
  | field hmem _ ih =>
    subst hd
    obtain ⟨⟨name, value⟩, hrow, heq⟩ := mem_toJson hmem
    obtain ⟨rfl, hvalue⟩ := Prod.mk.inj heq
    obtain ⟨inner, rfl, hinner⟩ := FieldValue.eq_nested_of_toJson_eq_obj hvalue.symm
    obtain ⟨d', hd', rfl⟩ := ih hinner
    exact ⟨d', .row hrow hd', rfl⟩

theorem SeparableNames.separableKeys {d : Document} (h : SeparableNames d) :
    SeparableKeys d.toJson := by
  constructor
  · intro e he key hkey
    obtain ⟨d', hd', rfl⟩ := exists_nested_of_within he rfl
    obtain ⟨entry, hentry, rfl⟩ := List.mem_map.1 hkey
    obtain ⟨row, hrow, rfl⟩ := mem_toJson hentry
    exact h.noDelimiter d' hd' row.1 (List.mem_map_of_mem hrow)
  · intro e he key inner hinner
    obtain ⟨d', hd', rfl⟩ := exists_nested_of_within he rfl
    obtain ⟨⟨name, value⟩, hrow, heq⟩ := mem_toJson hinner
    obtain ⟨rfl, hvalue⟩ := Prod.mk.inj heq
    obtain ⟨doc, rfl, -⟩ := FieldValue.eq_nested_of_toJson_eq_obj hvalue.symm
    exact h.noUnderscore d' hd' key doc hrow

end Document
end SearchGateway
