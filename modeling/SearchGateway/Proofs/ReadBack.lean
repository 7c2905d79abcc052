import Mathlib.Tactic.Lemma
import SearchGateway.Proofs.DocumentJson
import SearchGateway.Proofs.Placement
import SearchGateway.Publishing.Fields
import SearchGateway.Results

/-!
# Reading back what was published

A document is published under flat names, without its blank fields and with its truth values
as texts.  An engine returns these fields in a hit, each as an array of values.  Reading the
hit restores the nesting of the document, if its names can be joined and cut again; the
fields themselves come back as they are described by `shownLeaf`, and nested documents of
which no field is left are gone (`documents_of_returned`).
-/
namespace SearchGateway

namespace Json

lemma itemsBoolsAsText_eq_map (items : List Json) :
    itemsBoolsAsText items = items.map boolsAsText := by
  induction items with
  | nil => rfl
  | cons item rest ih => rw [itemsBoolsAsText, ih, List.map_cons]

end Json

namespace Document

/-- A field as an engine returns it: always as an array of values. -/
def returnedValue : Json → Json
  | .arr items => .arr items
  | value => .arr [value]

/-- The fields of a hit for a document that was published with the given fields. -/
def returned (fields : JsonObject) : JsonObject := fields.mapValues returnedValue

/-- What is shown of a field that is no nested document: nothing of null, of blank text and of
an empty list; the element of a list of one, and one text for a longer list.  Truth values are
shown as texts, inside lists too. -/
def shownLeaf (separator : String) : Json → Option Json
  | .null => none
  | .bool value => some (.str (FieldValue.boolText value))
  | .str text => if Text.isBlankText text then none else some (.str text)
  | .arr [] => none
  | .arr [item] => some item.boolsAsText
  | .arr items =>
    some (.str (separator.intercalate (items.map fun item => Results.plainText item.boolsAsText)))
  | value => some value

/-- What is shown of a document after it was published and searched for. -/
def shown (separator : String) (d : Document) : JsonObject :=
  pruned (shownLeaf separator) d.toJson

lemma publishedFields_eq (d : Document) :
    d.publishedFields = (flatten d.toJson).filterMapValues fun value =>
      if !value.isBlank then some value.boolsAsText else none :=
  KeyMap.mapValues_filterValues _ _ _

/-- Publishing a value and reading what is returned leaves what is shown of it. -/
lemma collapse_returnedValue (separator : String) {value : Json}
    (h : value.isObject = false) :
    (if !value.isBlank then
        some (Results.collapse separator (returnedValue value.boolsAsText)) else none) =
      shownLeaf separator value := by
  cases value with
  | null | bool _ | int _ | float _ => rfl
  | str text =>
    by_cases hblank : Text.isBlankText text
    · simp [Json.isBlank, hblank, shownLeaf]
    · simp [Json.isBlank, hblank, shownLeaf, Json.boolsAsText, returnedValue, Results.collapse]
  | arr items =>
    -- the lists that are dropped, unpacked and joined
    rcases items with _ | ⟨first, _ | ⟨second, rest⟩⟩
    · rfl
    · rfl
    · simp [Json.isBlank, Json.boolsAsText, Json.itemsBoolsAsText_eq_map, returnedValue,
        Results.collapse, shownLeaf, Function.comp_def]
  | obj fields => exact absurd h (by simp)

/-- The fields of a hit are those of the flattened document, as they are shown. -/
lemma mapValues_collapse_returned (separator : String) (d : Document) :
    (returned d.publishedFields).mapValues (Results.collapse separator) =
      (flatten d.toJson).filterMapValues (shownLeaf separator) := by
  rw [returned, publishedFields_eq, KeyMap.mapValues_filterMapValues,
    KeyMap.mapValues_filterMapValues]
  refine KeyMap.filterMapValues_congr fun entry hentry => ?_
  rw [← collapse_returnedValue separator (isObject_of_mem_flatten hentry)]
  split <;> rfl

lemma decodeHit_of_returned {separator : String} {hit : Json} {d : Document}
    (hd : SeparableNames d)
    (hfields : hit.get? "fields" = some (.obj (returned d.publishedFields))) :
    Results.decodeHit separator hit = shown separator d := by
  have hbind : (hit.get? "fields").bind Json.fields? = some (returned d.publishedFields) := by
    rw [hfields]
    rfl
  rw [Results.decodeHit, hbind]
  show unflatten ((returned d.publishedFields).mapValues _) = _
  rw [mapValues_collapse_returned, shown]
  exact unflatten_filterMapValues _ d.orderedJson hd.separableKeys

/-- **Reading inverts publishing.**  In the results of either engine, a hit that holds the
published fields of a document is read as what is shown of the document. -/
theorem documents_of_returned {r : Results} {i : Nat} {hit : Json} {d : Document}
    (hd : SeparableNames d) (hhit : r.hits[i]? = some hit)
    (hfields : hit.get? "fields" = some (.obj (returned d.publishedFields))) :
    r.documents[i]? = some (shown r.separator d) := by
  rw [Results.documents, List.getElem?_map, hhit, Option.map_some, decodeHit_of_returned hd hfields]

/-- A document with truth values in lists, a blank text and a nested document of which nothing
is left, in the first hit of a response. -/
theorem documents_of_returned_nested :
    let author : Document := ⟨[("names", .list [.text "Ann", .bool true]), ("bio", .null)]⟩
    let gone : Document := ⟨[("tags", .list [])]⟩
    let d : Document := ⟨[("_draft", .bool false), ("note", .text " "), ("author", .nested author),
      ("gone", .nested gone), ("parts_", .list [.nested ⟨[("a__b", .bool true)]⟩])]⟩
    let hit : Json := .obj ⟨[("fields", .obj (returned d.publishedFields))]⟩
    let raw : Json := .obj ⟨[("hits", .obj ⟨[("hits", .arr [hit])]⟩)]⟩
    SeparableNames d ∧
      (Results.mk .elasticsearch raw "|").documents[0]? =
        some ⟨[("_draft", .str "false"), ("author", .obj ⟨[("names", .str "Ann|true")]⟩),
          ("parts_", .obj ⟨[("a__b", .str "true")]⟩)]⟩ := by
  intro author gone d hit raw
  have hauthor : SeparableNames author := by
    refine separableNames_of_rows (by decide +kernel) ?_
    simp [author]
  have hgone : SeparableNames gone := by
    refine separableNames_of_rows (by decide +kernel) ?_
    simp [gone]
  have hd : SeparableNames d := by
    refine separableNames_of_rows (by decide +kernel) fun name inner hinner => ?_
    simp only [d, List.mem_cons, Prod.mk.injEq, reduceCtorEq, and_false, false_or, or_false,
      FieldValue.nested.injEq, List.not_mem_nil] at hinner
    rcases hinner with ⟨rfl, rfl⟩ | ⟨rfl, rfl⟩
    · exact ⟨by decide +kernel, hauthor⟩
    · exact ⟨by decide +kernel, hgone⟩
  have hhit : (Results.mk .elasticsearch raw "|").hits[0]? = some hit := rfl
  exact ⟨hd, documents_of_returned hd hhit rfl⟩

end Document
end SearchGateway
