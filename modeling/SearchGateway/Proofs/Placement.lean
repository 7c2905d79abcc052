import Mathlib.Data.List.Basic
import Mathlib.Data.List.Pairwise
import Mathlib.Tactic.Lemma
import SearchGateway.Proofs.Leaves

/-!
# Rebuilding nested objects

Unflattening puts values in place one after the other, in the order of the flat names.  This
order is not the order of the leaves in the object that was flattened, but it does not matter:
two values whose paths are apart can be put in place in either order (`place_comm`).

In the order of the leaves the nested object grows at its end, and this gives the main result
`unflatten_filterMapValues`: flattening an object with separable keys, dropping some of the
values and replacing the others, and unflattening what is left gives the object in which the
leaves are dropped and replaced where they stand, and in which objects that are left without a
field are dropped as well.
-/
namespace SearchGateway.Document

/-! ## Putting one value in place -/

/-- The object at a key, in which values below the key are put in place. -/
def child (fields : JsonObject) (key : String) : JsonObject :=
  ((fields.get? key).bind Json.fields?).getD .empty

/-- What is set at the first key of a path when a value is put in place, given what is there;
a plain value is not set over an object. -/
def placedAt (existing : Option Json) (path : List String) (value : Json) : Option Json :=
  match path with
  | [] => if existing.any Json.isObject then none else some value
  | next :: rest =>
    some (.obj (place ((existing.bind Json.fields?).getD .empty) (next :: rest) value))

lemma place_cons (fields : JsonObject) (key : String) (path : List String) (value : Json) :
    place fields (key :: path) value =
      match placedAt (fields.get? key) path value with
      | none => fields
      | some placed => fields.insert key placed := by
  cases path with
  | nil =>
    rw [place, placedAt]
    cases fields.get? key with
    | none => rfl
    | some existing => cases existing <;> rfl
  | cons next rest => rw [place, placedAt]

lemma place_cons_cons (fields : JsonObject) (key next : String) (rest : List String)
    (value : Json) :
    place fields (key :: next :: rest) value =
      fields.insert key (.obj (place (child fields key) (next :: rest) value)) := by
  rw [place, child]

lemma get?_place_of_ne {key key' : String} (h : key' ≠ key) (fields : JsonObject)
    (path : List String) (value : Json) :
    (place fields (key :: path) value).get? key' = fields.get? key' := by
  rw [place_cons]
  split
  · rfl
  · rw [KeyMap.get?_insert, if_neg h]

@[simp] lemma child_insert_self (fields : JsonObject) (key : String) (inner : JsonObject) :
    child (fields.insert key (.obj inner)) key = inner := by
  simp [child, Json.fields?]

/-- Values whose paths are apart are put in place in either order. -/
theorem place_comm {p q : List String} (h : Apart p q) (fields : JsonObject) (v w : Json) :
    place (place fields p v) q w = place (place fields q w) p v := by
  induction p generalizing q fields with
  | nil => exact absurd (List.nil_prefix) h.1
  | cons key p ih =>
    cases q with
    | nil => exact absurd (List.nil_prefix) h.2
    | cons key' q =>
      by_cases hkey : key = key'
      · subst hkey
        have hrest : Apart p q := by simpa [Apart, List.cons_prefix_cons] using h
        -- neither path ends at the common key, so both go on inside its object
        rcases p with _ | ⟨next, p⟩
        · exact absurd (List.nil_prefix) hrest.1
        rcases q with _ | ⟨next', q⟩
        · exact absurd (List.nil_prefix) hrest.2
        simp only [place_cons_cons, child_insert_self, KeyMap.insert_insert_self]
        rw [ih hrest]
      · -- neither value sees what is set for the other, so only the two settings are swapped
        rw [place_cons (place fields (key :: p) v), get?_place_of_ne (Ne.symm hkey),
          place_cons (place fields (key' :: q) w), get?_place_of_ne hkey,
          place_cons fields key, place_cons fields key']
        cases placedAt (fields.get? key) p v <;> cases placedAt (fields.get? key') q w
        case some.some placed placed' => exact KeyMap.insert_comm (Ne.symm hkey) _ _ _
        all_goals rfl

/-! ## Putting many values in place -/

/-- Puts leaves in place one after the other. -/
def placeAll (fields : JsonObject) (leaves : List (List String × Json)) : JsonObject :=
  leaves.foldl (fun fields leaf => place fields leaf.1 leaf.2) fields

/-- Leaves below one key are put in place in the object at this key. -/
lemma placeAll_under {leaves : List (List String × Json)} (hne : leaves ≠ [])
    (hpaths : ∀ leaf ∈ leaves, leaf.1 ≠ []) (fields : JsonObject) (key : String) :
    placeAll fields (leaves.map (under key)) =
      fields.insert key (.obj (placeAll (child fields key) leaves)) := by
  induction leaves generalizing fields with
  | nil => exact absurd rfl hne
  | cons leaf rest ih =>
    obtain ⟨next, path, hpath⟩ := List.exists_cons_of_ne_nil (hpaths leaf List.mem_cons_self)
    have hfirst : place fields (key :: leaf.1) leaf.2 =
        fields.insert key (.obj (place (child fields key) leaf.1 leaf.2)) := by
      rw [hpath, place_cons_cons]
    rcases eq_or_ne rest [] with rfl | hrest
    · exact hfirst
    · have hmore := ih hrest (fun l hl => hpaths l (List.mem_cons_of_mem _ hl))
        (place fields (key :: leaf.1) leaf.2)
      rw [hfirst, child_insert_self, KeyMap.insert_insert_self] at hmore
      simpa [placeAll, under, hfirst] using hmore

/-! ## Dropping and replacing leaves -/

/-- What a function keeps of some leaves. -/
def kept (f : Json → Option Json) (leaves : List (List String × Json)) :
    List (List String × Json) :=
  leaves.filterMap fun leaf => (f leaf.2).map (leaf.1, ·)

mutual

/-- What is left of a value when its leaves are dropped or replaced: nothing is left of an
object without any field. -/
def prunedValue (f : Json → Option Json) (value : Json) : Option Json :=
  match value with
  | .obj ⟨fields⟩ =>
    match prunedFields f fields with
    | [] => none
    | first :: rest => some (.obj ⟨first :: rest⟩)
  | value => f value

/-- What is left of the fields of an object when its leaves are dropped or replaced. -/
def prunedFields (f : Json → Option Json) : List (String × Json) → List (String × Json)
  | [] => []
  | (key, value) :: rest => ((prunedValue f value).map (key, ·)).toList ++ prunedFields f rest

end

/-- What is left of an object when its leaves are dropped or replaced. -/
def pruned (f : Json → Option Json) (d : JsonObject) : JsonObject := ⟨prunedFields f d.entries⟩

lemma prunedValue_of_isObject_eq_false {value : Json} (h : value.isObject = false)
    (f : Json → Option Json) : prunedValue f value = f value := by
  cases value with
  | obj fields => exact absurd h (by simp)
  | _ => rfl

lemma kept_append (f : Json → Option Json) (l l' : List (List String × Json)) :
    kept f (l ++ l') = kept f l ++ kept f l' := by
  simp [kept]

lemma kept_map_under (f : Json → Option Json) (key : String) (l : List (List String × Json)) :
    kept f (l.map (under key)) = (kept f l).map (under key) := by
  simp only [kept, List.filterMap_map, List.map_filterMap, Option.map_map, Function.comp_def,
    under]

lemma kept_leaves_of_isObject_eq_false {value : Json} (h : value.isObject = false)
    (f : Json → Option Json) :
    kept f (leaves value) = ((f value).map (([] : List String), ·)).toList := by
  rw [leaves_of_isObject_eq_false h]
  cases hf : f value <;> simp [kept, hf]

lemma path_ne_nil_of_mem_kept {f : Json → Option Json} {fields : List (String × Json)}
    {leaf : List String × Json} (h : leaf ∈ kept f (fieldLeaves fields)) : leaf.1 ≠ [] := by
  obtain ⟨leaf', hleaf', hkept⟩ := List.mem_filterMap.1 h
  obtain ⟨value, -, rfl⟩ := Option.map_eq_some_iff.1 hkept
  have hne := path_ne_nil_of_mem_fieldLeaves hleaf'
  exact hne

mutual

theorem kept_leaves_eq_nil_iff (f : Json → Option Json) (value : Json) :
    kept f (leaves value) = [] ↔ prunedValue f value = none := by
  match value with
  | .obj ⟨fields⟩ =>
    rw [leaves, prunedValue, kept_fieldLeaves_eq_nil_iff f fields]
    cases prunedFields f fields <;> simp
  | .null | .bool _ | .int _ | .float _ | .str _ | .arr _ =>
    rw [kept_leaves_of_isObject_eq_false rfl, prunedValue_of_isObject_eq_false rfl]
    simp

theorem kept_fieldLeaves_eq_nil_iff (f : Json → Option Json) (fields : List (String × Json)) :
    kept f (fieldLeaves fields) = [] ↔ prunedFields f fields = [] := by
  match fields with
  | [] => simp [fieldLeaves, prunedFields, kept]
  | (key, value) :: rest =>
    rw [fieldLeaves, prunedFields, kept_append, kept_map_under, List.append_eq_nil_iff,
      List.append_eq_nil_iff, List.map_eq_nil_iff, kept_leaves_eq_nil_iff f value,
      kept_fieldLeaves_eq_nil_iff f rest]
    simp

end

/-- A key above all the keys that are done is set at the end. -/
lemma insert_of_forall_lt {done : List (String × Json)} {key : String}
    (hdone : ∀ entry ∈ done, entry.1 < key) (value : Json) :
    (KeyMap.mk done).insert key value = ⟨done ++ [(key, value)]⟩ := by
  rw [KeyMap.insert, KeyMap.insertEntry_of_forall_lt hdone]

lemma get?_of_forall_lt {done : List (String × Json)} {key : String}
    (hdone : ∀ entry ∈ done, entry.1 < key) : (KeyMap.mk done).get? key = none := by
  refine KeyMap.get?_eq_none_of_forall_ne fun entry hentry heq => ?_
  exact String.lt_irrefl _ (heq ▸ hdone entry hentry)

mutual

/-- In the order of the leaves, the leaves of a value become one entry at the end. -/
theorem placeAll_kept_leaves (f : Json → Option Json) (value : Json) (hord : value.Ordered)
    (done : List (String × Json)) {key : String} (hdone : ∀ entry ∈ done, entry.1 < key) :
    placeAll ⟨done⟩ ((kept f (leaves value)).map (under key)) =
      ⟨done ++ ((prunedValue f value).map (key, ·)).toList⟩ := by
  match value with
  | .obj ⟨fields⟩ =>
    rw [Json.Ordered] at hord
    have hinner : placeAll ⟨[]⟩ (kept f (fieldLeaves fields)) = ⟨prunedFields f fields⟩ :=
      placeAll_kept_fieldLeaves f fields hord.1 hord.2 [] (by simp)
    have hnil := kept_fieldLeaves_eq_nil_iff f fields
    rw [leaves, prunedValue]
    -- without a leaf inside it no object is ever built at the key
    rcases eq_or_ne (kept f (fieldLeaves fields)) [] with hkept | hkept
    · rw [hkept, hnil.1 hkept]
      simp [placeAll]
    · have hempty : child ⟨done⟩ key = ⟨[]⟩ := by
        rw [child, get?_of_forall_lt hdone]
        rfl
      rw [placeAll_under hkept (fun leaf => path_ne_nil_of_mem_kept), hempty, hinner,
        insert_of_forall_lt hdone]
      cases hfields : prunedFields f fields with
      | nil => exact absurd (hnil.2 hfields) hkept
      | cons first rest => rfl
  | .null | .bool _ | .int _ | .float _ | .str _ | .arr _ =>
    rw [kept_leaves_of_isObject_eq_false rfl, prunedValue_of_isObject_eq_false rfl]
    cases f _ with
    | none => simp [placeAll]
    | some value' =>
      have hplace : place ⟨done⟩ [key] value' = (KeyMap.mk done).insert key value' := by
        rw [place_cons, get?_of_forall_lt hdone]
        rfl
      rw [insert_of_forall_lt hdone] at hplace
      exact hplace

/-- In the order of the leaves, the leaves of the fields of an object become entries at the
end. -/
theorem placeAll_kept_fieldLeaves (f : Json → Option Json) (fields : List (String × Json))
    (hkeys : fields.Pairwise fun a b => a.1 < b.1) (hord : Json.OrderedFields fields)
    (done : List (String × Json)) (hdone : ∀ entry ∈ done, ∀ field ∈ fields, entry.1 < field.1) :
    placeAll ⟨done⟩ (kept f (fieldLeaves fields)) = ⟨done ++ prunedFields f fields⟩ := by
  match fields with
  | [] => simp [fieldLeaves, prunedFields, kept, placeAll]
  | (key, value) :: rest =>
    rw [Json.OrderedFields] at hord
    rw [List.pairwise_cons] at hkeys
    have hvalue := placeAll_kept_leaves f value hord.1 done
      (fun entry hentry => hdone entry hentry _ List.mem_cons_self)
    have hrest := placeAll_kept_fieldLeaves f rest hkeys.2 hord.2
      (done ++ ((prunedValue f value).map (key, ·)).toList) (by
        intro entry hentry field hfield
        rcases List.mem_append.1 hentry with hentry | hentry
        · exact hdone entry hentry field (List.mem_cons_of_mem _ hfield)
        · obtain ⟨value', -, rfl⟩ := Option.map_eq_some_iff.1 (Option.mem_toList.1 hentry)
          exact hkeys.1 field hfield)
    rw [fieldLeaves, kept_append, kept_map_under, prunedFields, ← List.append_assoc, ← hrest,
      ← hvalue]
    simp only [placeAll, List.foldl_append]

end

/-! ## Unflattening -/

lemma unflatten_eq_placeAll (flat : JsonObject) :
    unflatten flat =
      placeAll .empty (flat.entries.map fun entry => (FieldName.parts entry.1, entry.2)) := by
  rw [unflatten, placeAll, List.foldl_map]

/-- Leaves with paths apart can be put in place in any order. -/
lemma placeAll_perm {l l' : List (List String × Json)} (hperm : l.Perm l')
    (hapart : l'.Pairwise fun a b => Apart a.1 b.1) (fields : JsonObject) :
    placeAll fields l = placeAll fields l' := by
  refine hperm.foldl_eq' (fun a ha b hb fields => ?_) fields
  have : Std.Symm fun a b : List String × Json => Apart a.1 b.1 := ⟨fun _ _ h => ⟨h.2, h.1⟩⟩
  rcases eq_or_ne a b with rfl | hne
  · rfl
  · exact place_comm (hapart.forall (hperm.mem_iff.1 ha) (hperm.mem_iff.1 hb) hne) _ _ _

/-- The leaves that are kept of a flattened object, cut into their paths again. -/
lemma parts_filterMapValues_flatten_perm (f : Json → Option Json) (d : OrderedObject)
    (h : SeparableKeys d.fields) :
    (((flatten d.fields).filterMapValues f).entries.map fun entry =>
      (FieldName.parts entry.1, entry.2)).Perm (kept f (fieldLeaves d.fields.entries)) := by
  have hperm := KeyMap.ofList_perm (nodup_names_of_separableKeys d h)
  rw [← flatten_eq_ofList] at hperm
  have hkept := (hperm.filterMap fun entry => (f entry.2).map (entry.1, ·)).map
    fun entry => (FieldName.parts entry.1, entry.2)
  refine hkept.trans (List.Perm.of_eq ?_)
  rw [List.filterMap_map, List.map_filterMap, kept]
  refine List.filterMap_congr fun leaf hleaf => ?_
  have hparts : FieldName.parts (FieldName.joined leaf.1) = leaf.1 :=
    FieldName.parts_joined (path_ne_nil_of_mem_fieldLeaves hleaf)
      (separable_of_mem_fieldLeaves _ h (fun _ => id) hleaf)
  simp [named, hparts, Function.comp_def]

lemma pairwise_kept {f : Json → Option Json} {l : List (List String × Json)}
    (h : l.Pairwise fun a b => Apart a.1 b.1) :
    (kept f l).Pairwise fun a b => Apart a.1 b.1 := by
  rw [kept, List.pairwise_filterMap]
  refine h.imp fun {a a'} haa' b hb b' hb' => ?_
  obtain ⟨value, -, rfl⟩ := Option.map_eq_some_iff.1 hb
  obtain ⟨value', -, rfl⟩ := Option.map_eq_some_iff.1 hb'
  exact haa'

/-- Dropping and replacing the values of a flattened object is dropping and replacing the
leaves where they stand. -/
theorem unflatten_filterMapValues (f : Json → Option Json) (d : OrderedObject)
    (h : SeparableKeys d.fields) :
    unflatten ((flatten d.fields).filterMapValues f) = pruned f d.fields := by
  rw [unflatten_eq_placeAll, placeAll_perm (parts_filterMapValues_flatten_perm f d h)
    (pairwise_kept (pairwise_fieldLeaves d.fields.entries d.sorted d.orderedFields))]
  exact placeAll_kept_fieldLeaves f d.fields.entries d.sorted d.orderedFields [] (by simp)

end SearchGateway.Document
