import Mathlib.Tactic.Lemma
import SearchGateway.Proofs.DocumentJson
import SearchGateway.Proofs.ReadBack

/-!
# What is published of a document

Different fields of a document can have one flat name, as `a__b` and the field `b` inside `a`.  Of
the leaves with one flat name the last one counts, in the depth-first order in which the keys stand
sorted at each level; blank values are left out only after that, so that a later blank value takes
an earlier one with it.  What is published under a name is this leaf, if it is not blank, with its
truth values as texts (`publishes_last_leaf`).

The order in which the names of a document were set is not seen in what is published, because the
keys of its JSON object are sorted at every level, also inside lists.
-/
namespace SearchGateway

namespace Json

/-! ## Values inside values -/

/-- A value stands inside another one, at any depth, or is it itself. -/
inductive Inside : Json → Json → Prop
  | self (value : Json) : Inside value value
  | item {items : List Json} {item inner : Json} (hmem : item ∈ items) (h : Inside item inner) :
    Inside (.arr items) inner
  | field {fields : JsonObject} {key : String} {value inner : Json}
    (hmem : (key, value) ∈ fields.entries) (h : Inside value inner) : Inside (.obj fields) inner

variable {value : Json}

lemma fieldsBoolsAsText_eq_map (fields : List (String × Json)) :
    fieldsBoolsAsText fields = fields.map fun field => (field.1, field.2.boolsAsText) := by
  induction fields with
  | nil => rfl
  | cons field rest ih => rw [fieldsBoolsAsText, ih, List.map_cons]

lemma boolsAsText_ne_bool (value : Json) (b : Bool) : value.boolsAsText ≠ .bool b := by
  cases value <;> simp [boolsAsText]

lemma boolsAsText_eq_arr {items : List Json} (h : value.boolsAsText = .arr items) :
    ∃ before, value = .arr before ∧ items = before.map boolsAsText := by
  cases value with
  | arr before =>
    rw [boolsAsText, itemsBoolsAsText_eq_map] at h
    exact ⟨before, rfl, (Json.arr.inj h).symm⟩
  | _ => exact absurd h (by simp [boolsAsText])

lemma boolsAsText_eq_obj {fields : JsonObject} (h : value.boolsAsText = .obj fields) :
    ∃ before, value = .obj before ∧ fields = before.mapValues boolsAsText := by
  cases value with
  | obj before =>
    obtain ⟨entries⟩ := before
    rw [boolsAsText, fieldsBoolsAsText_eq_map] at h
    exact ⟨⟨entries⟩, rfl, (Json.obj.inj h).symm⟩
  | _ => exact absurd h (by simp [boolsAsText])

/-- What stands inside a value whose truth values were made texts stood there before, with its own
truth values. -/
lemma exists_of_inside_boolsAsText {inner : Json} (h : Inside value.boolsAsText inner) :
    ∃ before, Inside value before ∧ inner = before.boolsAsText := by
  generalize hwhole : value.boolsAsText = whole at h
  induction h generalizing value with
  | self => exact ⟨value, .self value, hwhole.symm⟩
  | item hmem _ ih =>
    obtain ⟨items, rfl, rfl⟩ := boolsAsText_eq_arr hwhole
    obtain ⟨item, hitem, rfl⟩ := List.mem_map.1 hmem
    obtain ⟨before, hbefore, rfl⟩ := ih rfl
    exact ⟨before, .item hitem hbefore, rfl⟩
  | field hmem _ ih =>
    obtain ⟨fields, rfl, rfl⟩ := boolsAsText_eq_obj hwhole
    obtain ⟨⟨key, value⟩, hfield, heq⟩ := List.mem_map.1 hmem
    obtain ⟨rfl, rfl⟩ := Prod.mk.inj heq
    obtain ⟨before, hbefore, rfl⟩ := ih rfl
    exact ⟨before, .field hfield hbefore, rfl⟩

/-- No truth value is left at any depth. -/
lemma not_inside_boolsAsText (value : Json) (b : Bool) : ¬ Inside value.boolsAsText (.bool b) := by
  intro h
  obtain ⟨before, -, heq⟩ := exists_of_inside_boolsAsText h
  exact before.boolsAsText_ne_bool b heq.symm

/-! ## Values that are worth sending -/

/-- What is published as the value of a field: it is neither null nor an object, holds text or
items if it is a text or a list, and has no truth value in it. -/
structure Publishable (value : Json) : Prop where
  ne_null : value ≠ .null
  ne_obj : ∀ fields, value ≠ .obj fields
  ne_nil : value ≠ .arr []
  not_blank : ∀ text, value = .str text → ∃ c ∈ text.toList, Text.isBlank c = false
  not_bool : ∀ b, ¬ Inside value (.bool b)

/-- A leaf that is not blank is worth sending once its truth values are texts. -/
lemma publishable_boolsAsText (hleaf : value.isObject = false) (hblank : value.isBlank = false) :
    Publishable value.boolsAsText := by
  refine ⟨?_, ?_, ?_, ?_, value.not_inside_boolsAsText⟩
  · rintro hnull
    cases value <;> simp_all [boolsAsText, isBlank]
  · rintro fields hobj
    obtain ⟨before, rfl, -⟩ := boolsAsText_eq_obj hobj
    exact absurd hleaf (by simp)
  · intro hnil
    obtain ⟨before, rfl, hmap⟩ := boolsAsText_eq_arr hnil
    obtain rfl := List.map_eq_nil_iff.1 hmap.symm
    exact absurd hblank (by simp [isBlank])
  · rintro text htext
    cases value with
    | bool b =>
      obtain rfl := Json.str.inj htext
      cases b with
      | false => exact ⟨'f', by decide, by decide⟩
      | true => exact ⟨'t', by decide, by decide⟩
    | str before =>
      obtain rfl : before = text := Json.str.inj htext
      simpa [isBlank, Text.isBlankText] using hblank
    | _ => exact absurd htext (by simp [boolsAsText])

end Json

namespace Document

/-! ## The last leaf with a name -/

/-- The last of the leaves of an object whose keys are joined to the given name. -/
def lastLeaf? (d : JsonObject) (name : String) : Option Json :=
  ((fieldLeaves d.entries).filter fun leaf => FieldName.joined leaf.1 = name).getLast?.map Prod.snd

lemma get?_flatten_eq_lastLeaf? (d : JsonObject) (name : String) :
    (flatten d).get? name = lastLeaf? d name := by
  rw [flatten_eq_ofList, KeyMap.ofList_eq_insertAll, KeyMap.get?_insertAll, List.filter_map,
    List.getLast?_map, Option.map_map, lastLeaf?]
  exact Option.or_none

lemma get?_publishedFields_eq_some_iff {d : Document} {name : String} {value : Json} :
    d.publishedFields.get? name = some value ↔
      ∃ leaf, lastLeaf? d.toJson name = some leaf ∧ leaf.isBlank = false ∧
        leaf.boolsAsText = value := by
  rw [publishedFields_eq, KeyMap.get?_filterMapValues _ (nodup_keys_flatten _),
    get?_flatten_eq_lastLeaf?, Option.bind_eq_some_iff]
  simp

lemma publishable_of_mem {d : Document} {entry : String × Json}
    (h : entry ∈ d.publishedFields.entries) : entry.2.Publishable := by
  rw [publishedFields_eq] at h
  obtain ⟨⟨name, leaf⟩, hleaf, hsent⟩ := List.mem_filterMap.1 h
  have hobject : leaf.isObject = false := isObject_of_mem_flatten hleaf
  cases hblank : leaf.isBlank with
  | true => exact absurd hsent (by simp [hblank])
  | false =>
    obtain rfl : (name, leaf.boolsAsText) = entry := by simpa [hblank] using hsent
    exact Json.publishable_boolsAsText hobject hblank

end Document

/-! ## Documents in another order -/

mutual

/-- Two values differ only in the order in which names were set, at any level. -/
inductive Reordered : FieldValue → FieldValue → Prop
  | refl (value : FieldValue) : Reordered value value
  | list {items items' : List FieldValue} (h : ReorderedItems items items') :
    Reordered (.list items) (.list items')
  | nested {d d' : Document} (h : ReorderedRows d.rows d'.rows) :
    Reordered (.nested d) (.nested d')

/-- Two lists have items that differ only in this way. -/
inductive ReorderedItems : List FieldValue → List FieldValue → Prop
  | nil : ReorderedItems [] []
  | cons {item item' : FieldValue} {rest rest' : List FieldValue} (hitem : Reordered item item')
    (hrest : ReorderedItems rest rest') : ReorderedItems (item :: rest) (item' :: rest')

/-- The first row of the one document stands behind rows with other names in the other document,
and the remaining rows are found in the same way. -/
inductive ReorderedRows : List (String × FieldValue) → List (String × FieldValue) → Prop
  | nil : ReorderedRows [] []
  | row {name : String} {value value' : FieldValue} {rest : List (String × FieldValue)}
    (front back : List (String × FieldValue)) (hfront : ∀ row ∈ front, row.1 ≠ name)
    (hvalue : Reordered value value') (hrest : ReorderedRows rest (front ++ back)) :
    ReorderedRows ((name, value) :: rest) (front ++ (name, value') :: back)

end

/-- The same rows in another order differ only in the order of their names. -/
lemma ReorderedRows.of_perm {rows rows' : List (String × FieldValue)}
    (hnames : (rows.map Prod.fst).Nodup) (h : rows.Perm rows') : ReorderedRows rows rows' := by
  induction rows generalizing rows' with
  | nil =>
    obtain rfl := h.nil_eq
    exact .nil
  | cons row rest ih =>
    obtain ⟨name, value⟩ := row
    obtain ⟨front, back, rfl⟩ := List.append_of_mem (h.subset List.mem_cons_self)
    have hrest : rest.Perm (front ++ back) := (h.trans List.perm_middle).cons_inv
    rw [List.map_cons, List.nodup_cons] at hnames
    refine .row front back (fun row hrow heq => hnames.1 ?_) (.refl value) (ih hnames.2 hrest)
    have hmem : row ∈ rest := hrest.mem_iff.2 (List.mem_append_left _ hrow)
    exact List.mem_map.2 ⟨row, hmem, heq⟩

namespace FieldValue

/-- A row may be set before the rows in front of it, if these have other names. -/
lemma rowsToJson_append_cons {front back : List (String × FieldValue)} {name : String}
    (hfront : ∀ row ∈ front, row.1 ≠ name) (value : FieldValue) (fields : JsonObject) :
    rowsToJson (front ++ (name, value) :: back) fields =
      rowsToJson (front ++ back) (fields.insert name value.toJson) := by
  induction front generalizing fields with
  | nil => rfl
  | cons row front ih =>
    rw [List.forall_mem_cons] at hfront
    rw [List.cons_append, List.cons_append, rowsToJson, rowsToJson, ih hfront.2,
      KeyMap.insert_comm (Ne.symm hfront.1)]

mutual

theorem toJson_eq_of_reordered (value : FieldValue) {value' : FieldValue}
    (h : Reordered value value') : value.toJson = value'.toJson := by
  match value with
  | .list items =>
    cases h with
    | refl => rfl
    | list hitems => rw [toJson, toJson, itemsToJson_eq_of_reordered items hitems]
  | .nested ⟨rows⟩ =>
    cases h with
    | refl => rfl
    | @nested _ d' hrows =>
      obtain ⟨rows'⟩ := d'
      rw [toJson, toJson, rowsToJson_eq_of_reordered rows hrows]
  | .null | .bool _ | .integer _ | .double _ | .text _ | .date _ =>
    cases h
    rfl

theorem itemsToJson_eq_of_reordered (items : List FieldValue) {items' : List FieldValue}
    (h : ReorderedItems items items') : itemsToJson items = itemsToJson items' := by
  match items with
  | [] =>
    cases h
    rfl
  | item :: rest =>
    cases h with
    | cons hitem hrest =>
      rw [itemsToJson, itemsToJson, toJson_eq_of_reordered item hitem,
        itemsToJson_eq_of_reordered rest hrest]

theorem rowsToJson_eq_of_reordered (rows : List (String × FieldValue))
    {rows' : List (String × FieldValue)} (h : ReorderedRows rows rows') (fields : JsonObject) :
    rowsToJson rows fields = rowsToJson rows' fields := by
  match rows with
  | [] =>
    cases h
    rfl
  | (name, value) :: rest =>
    cases h with
    | row front back hfront hvalue hrest =>
      rw [rowsToJson, rowsToJson_append_cons hfront, toJson_eq_of_reordered value hvalue,
        rowsToJson_eq_of_reordered rest hrest]

end

end FieldValue

namespace Document

/-- **The last leaf with a name is published.**  The keys of the JSON object of a document stand
sorted at each level.  Of its leaves whose keys are joined to a name, the last one is published
under the name with its truth values as texts, and nothing is if this leaf is blank.  So nothing is
published that is null, an object, a blank text or an empty list, or that has a truth value in it.
Documents that differ only in the order of their names are published alike. -/
theorem publishes_last_leaf (d : Document) :
    (Json.obj d.toJson).Ordered ∧
    (∀ name value, d.publishedFields.get? name = some value ↔
      ∃ leaf, lastLeaf? d.toJson name = some leaf ∧ leaf.isBlank = false ∧
        leaf.boolsAsText = value) ∧
    (∀ entry ∈ d.publishedFields.entries, entry.2.Publishable) ∧
    ∀ d' : Document, ReorderedRows d.rows d'.rows → d'.publishedFields = d.publishedFields := by
  refine ⟨ordered_toJson d, fun name value => get?_publishedFields_eq_some_iff,
    fun entry => publishable_of_mem, fun d' hrows => ?_⟩
  have hjson : d.toJson = d'.toJson := FieldValue.rowsToJson_eq_of_reordered d.rows hrows .empty
  rw [publishedFields, publishedFields, hjson]

/-- A blank value that comes later takes a text with it, a list that comes later replaces a truth
value, and the order of the rows does not matter, neither here nor in a document in a list. -/
theorem publishes_last_leaf_of_collisions :
    let pair : Document := ⟨[("x", .bool true), ("y", .null)]⟩
    let d : Document := ⟨[("a__b", .text " "), ("a", .nested ⟨[("b", .text "lost")]⟩),
      ("c", .nested ⟨[("d", .bool true)]⟩), ("c__d", .list [.bool false, .nested pair])]⟩
    let d' : Document := ⟨[("c__d", .list [.bool false, .nested ⟨pair.rows.reverse⟩]),
      ("a", .nested ⟨[("b", .text "lost")]⟩), ("a__b", .text " "),
      ("c", .nested ⟨[("d", .bool true)]⟩)]⟩
    let sent : Json := .arr [.str "false", .obj ⟨[("x", .str "true"), ("y", .null)]⟩]
    ReorderedRows d.rows d'.rows ∧ d.publishedFields.get? "a__b" = none ∧
      d'.publishedFields.get? "c__d" = some sent ∧ sent.Publishable := by
  intro pair d d' sent
  obtain ⟨-, hvalues, hpublishable, hreordered⟩ := publishes_last_leaf d
  have hrows : ReorderedRows d.rows d'.rows := by
    have hpair : Reordered (.nested pair) (.nested ⟨pair.rows.reverse⟩) :=
      .nested (.of_perm (by decide +kernel) pair.rows.reverse_perm.symm)
    have hlist := Reordered.list (.cons (.refl (.bool false)) (.cons hpair .nil))
    refine .row [d'.rows[0], d'.rows[1]] [d'.rows[3]] (by simp [d']) (.refl _) ?_
    refine .row [d'.rows[0]] [d'.rows[3]] (by simp [d']) (.refl _) ?_
    refine .row [d'.rows[0]] [] (by simp [d']) (.refl _) ?_
    exact .row [] [] (by simp) hlist .nil
  have hsent : d.publishedFields.get? "c__d" = some sent :=
    (hvalues "c__d" sent).2 ⟨_, rfl, rfl, rfl⟩
  refine ⟨hrows, ?_, hreordered d' hrows ▸ hsent, ?_⟩
  · cases hget : d.publishedFields.get? "a__b" with
    | none => rfl
    | some value =>
      obtain ⟨leaf, hleaf, hblank, -⟩ := (hvalues "a__b" value).1 hget
      have hspace : lastLeaf? d.toJson "a__b" = some (.str " ") := rfl
      obtain rfl : Json.str " " = leaf := Option.some.inj (hspace.symm.trans hleaf)
      exact absurd hblank (by decide)
  · exact hpublishable ("c__d", sent) (KeyMap.mem_of_get?_eq_some hsent)

end Document
end SearchGateway
