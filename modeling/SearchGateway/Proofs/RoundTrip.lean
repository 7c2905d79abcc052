import Mathlib.Tactic.Lemma
import SearchGateway.Proofs.Placement

/-!
# Which objects survive flattening

Flattening and unflattening give an object back exactly when it is in normal form
(`unflatten_flatten_eq_self_iff`).  In one direction no leaf is dropped or replaced, and
without empty objects nothing else is lost.  In the other direction whatever unflattening
builds is in normal form: the pieces of a name are separable, and every object that is built
below the top holds a value (`normal_unflatten`).
-/
namespace SearchGateway.Document

/-! ## Normal form, entry by entry -/

/-- What normal form asks of an entry of an object. -/
def NormalEntry (entry : String × Json) : Prop :=
  ¬ FieldName.HasDelimiter entry.1 ∧ ∀ inner, entry.2 = .obj inner →
    ¬ FieldName.EndsWithUnderscore entry.1 ∧ inner.entries ≠ [] ∧ Normal inner

lemma Normal.entry {d : JsonObject} (h : Normal d) {entry : String × Json}
    (hmem : entry ∈ d.entries) : NormalEntry entry := by
  obtain ⟨key, value⟩ := entry
  refine ⟨h.not_hasDelimiter hmem, ?_⟩
  rintro inner rfl
  refine ⟨h.noUnderscore d (.self d) key inner hmem, h.noEmpty d (.self d) key inner hmem, ?_⟩
  exact ⟨h.inner hmem, fun e he => h.noEmpty e (.field hmem he)⟩

/-- An object is in normal form when its entries are as normal form asks. -/
lemma normal_of_entries {d : JsonObject} (h : ∀ entry ∈ d.entries, NormalEntry entry) :
    Normal d := by
  refine ⟨⟨?_, ?_⟩, ?_⟩
  · intro e he key hkey
    cases he with
    | self =>
      obtain ⟨entry, hentry, rfl⟩ := List.mem_map.1 hkey
      exact (h entry hentry).1
    | field hmem he => exact ((h _ hmem).2 _ rfl).2.2.noDelimiter e he key hkey
  · intro e he key inner hinner
    cases he with
    | self => exact ((h _ hinner).2 inner rfl).1
    | field hmem he => exact ((h _ hmem).2 _ rfl).2.2.noUnderscore e he key inner hinner
  · intro e he key inner hinner
    cases he with
    | self => exact ((h _ hinner).2 inner rfl).2.1
    | field hmem he => exact ((h _ hmem).2 _ rfl).2.2.noEmpty e he key inner hinner

lemma normalEntry_of_isObject_eq_false {key : String} {value : Json}
    (hkey : ¬ FieldName.HasDelimiter key) (hvalue : value.isObject = false) :
    NormalEntry (key, value) := by
  refine ⟨hkey, ?_⟩
  rintro inner rfl
  exact absurd hvalue (by simp)

lemma normal_empty : Normal .empty := normal_of_entries (by simp [KeyMap.empty])

lemma Normal.insert {d : JsonObject} (h : Normal d) {key : String} {value : Json}
    (hentry : NormalEntry (key, value)) : Normal (d.insert key value) := by
  refine normal_of_entries fun entry hmem => ?_
  rcases KeyMap.mem_insertEntry hmem with rfl | hmem
  · exact hentry
  · exact h.entry hmem

lemma Normal.child {d : JsonObject} (h : Normal d) (key : String) : Normal (child d key) := by
  rw [Document.child]
  cases hget : d.get? key with
  | none => exact normal_empty
  | some value =>
    cases value with
    | obj inner => exact ((h.entry (KeyMap.mem_of_get?_eq_some hget)).2 inner rfl).2.2
    | _ => exact normal_empty

/-! ## What unflattening builds -/

lemma entries_place_ne_nil (fields : JsonObject) (key : String) (path : List String)
    (value : Json) : (place fields (key :: path) value).entries ≠ [] := by
  cases path with
  | nil =>
    rw [place]
    split
    next inner hget =>
      -- nothing is set, but only because there is an object at the key
      intro hnil
      have hmem := KeyMap.mem_of_get?_eq_some hget
      rw [hnil] at hmem
      exact absurd hmem List.not_mem_nil
    next => exact KeyMap.insertEntry_ne_nil _ _ _
  | cons next rest =>
    rw [place_cons_cons]
    exact KeyMap.insertEntry_ne_nil _ _ _

/-- Putting a plain value in place at a separable path keeps normal form. -/
theorem normal_place {fields : JsonObject} (h : Normal fields) {path : List String}
    (hpath : FieldName.Separable path) {value : Json} (hvalue : value.isObject = false) :
    Normal (place fields path value) := by
  induction path generalizing fields with
  | nil =>
    rw [place]
    exact h
  | cons key rest ih =>
    cases rest with
    | nil =>
      have hentry : NormalEntry (key, value) := normalEntry_of_isObject_eq_false hpath hvalue
      rw [place]
      split
      next => exact h
      next => exact h.insert hentry
    | cons next rest =>
      obtain ⟨hkey, hend, hrest⟩ := hpath
      have hchild := ih (h.child key) hrest
      rw [place_cons_cons]
      refine h.insert ⟨hkey, ?_⟩
      rintro inner hinner
      obtain rfl := Json.obj.inj hinner
      exact ⟨hend, entries_place_ne_nil _ _ _ _, hchild⟩

/-- Unflattening plain values builds normal forms only. -/
theorem normal_unflatten {flat : JsonObject}
    (h : ∀ entry ∈ flat.entries, entry.2.isObject = false) : Normal (unflatten flat) := by
  rw [unflatten]
  suffices hfold : ∀ (entries : List (String × Json)) (fields : JsonObject),
      (∀ entry ∈ entries, entry.2.isObject = false) → Normal fields →
      Normal (entries.foldl
        (fun fields entry => place fields (FieldName.parts entry.1) entry.2) fields) from
    hfold _ _ h normal_empty
  intro entries
  induction entries with
  | nil =>
    intro fields _ hfields
    exact hfields
  | cons entry rest ih =>
    intro fields hplain hfields
    have hentry : Normal (place fields (FieldName.parts entry.1) entry.2) :=
      normal_place hfields (FieldName.separable_parts entry.1) (hplain entry List.mem_cons_self)
    exact ih _ (fun other hother => hplain other (List.mem_cons_of_mem _ hother)) hentry

/-! ## What is given back -/

mutual

theorem prunedValue_some (value : Json)
    (h : ∀ inner, value = .obj inner → inner.entries ≠ [] ∧ Normal inner) :
    prunedValue some value = some value := by
  match value with
  | .obj ⟨fields⟩ =>
    obtain ⟨hne, hinner⟩ := h ⟨fields⟩ rfl
    rw [prunedValue, prunedFields_some fields fun field hfield => hinner.entry hfield]
    cases fields with
    | nil => exact absurd rfl hne
    | cons first rest => rfl
  | .null | .bool _ | .int _ | .float _ | .str _ | .arr _ => rfl

theorem prunedFields_some (fields : List (String × Json))
    (h : ∀ field ∈ fields, NormalEntry field) : prunedFields some fields = fields := by
  match fields with
  | [] => rfl
  | (key, value) :: rest =>
    have hvalue := prunedValue_some value fun inner hinner =>
      ((h _ List.mem_cons_self).2 inner hinner).2
    rw [prunedFields, hvalue,
      prunedFields_some rest fun field hfield => h field (List.mem_cons_of_mem _ hfield)]
    rfl

end

/-- **Exact domain of the round trip.**  Flattening and unflattening give an object back
exactly when no key inside it has the delimiter, no key of an object ends with an underscore,
and no object below the top is empty. -/
theorem unflatten_flatten_eq_self_iff (d : OrderedObject) :
    unflatten (flatten d.fields) = d.fields ↔ Normal d.fields := by
  constructor
  · intro h
    -- every object that unflattening builds is in normal form, so this one is
    rw [← h]
    exact normal_unflatten fun entry hentry => isObject_of_mem_flatten hentry
  · intro h
    -- dropping no leaf leaves a normal form as it is
    have hpruned := unflatten_filterMapValues some d h.toSeparableKeys
    rw [KeyMap.filterMapValues_some] at hpruned
    rw [hpruned, pruned, prunedFields_some d.fields.entries fun field hfield => h.entry hfield]

/-- Keys may be empty and may begin with an underscore, and a key may end with one where it
holds no object: here an array, which is not entered. -/
theorem unflatten_flatten_of_underscores :
    let d : JsonObject := ⟨[("", .obj ⟨[("", .int 1), ("_b", .null)]⟩),
      ("a_", .arr [.obj ⟨[("c__d", .obj ⟨[]⟩)]⟩])]⟩
    (Json.obj d).Ordered ∧ unflatten (flatten d) = d := by
  intro d
  have hord : (Json.obj d).Ordered := by
    simp only [d, Json.Ordered, Json.OrderedFields, Json.OrderedItems, and_true]
    decide
  have hinner : Normal ⟨[("", .int 1), ("_b", .null)]⟩ := by
    refine normal_of_entries (List.forall_mem_cons.2 ⟨?_, List.forall_mem_singleton.2 ?_⟩)
    all_goals exact normalEntry_of_isObject_eq_false (by decide) rfl
  have hnormal : Normal d := by
    refine normal_of_entries (List.forall_mem_cons.2 ⟨⟨by decide, ?_⟩, ?_⟩)
    · rintro inner hobj
      obtain rfl := Json.obj.inj hobj
      exact ⟨by decide, by decide, hinner⟩
    · exact List.forall_mem_singleton.2 (normalEntry_of_isObject_eq_false (by decide) rfl)
  exact ⟨hord, (unflatten_flatten_eq_self_iff ⟨d, hord⟩).2 hnormal⟩

end SearchGateway.Document
