import Mathlib.Tactic.Lemma
import SearchGateway.Json.Merge
import SearchGateway.Proofs.Shadowing

/-!
# What merging makes of a value

A fragment that is merged into an object decides what stands at the end of a path, if it has
anything there or on the way: a value of the fragment that is no object takes the place of whatever
was there, and an object of the fragment is merged in turn.  Everywhere else the object stays as it
is.  One equation says this of all paths (`at?_merge`); it holds of values of every kind.

From it, and from what merging does to a single key, it follows that a fragment which was merged
once has nothing to change when it is merged again (`merge_merge_self`), and that fragments without
a common key can be merged in either order (`mergeFields_comm`).
-/
namespace SearchGateway.Json

open Document (PlainAt OpensAt at?_obj_cons at?_cons_of_isObject_eq_false exists_eq_obj_of_isObject
  insert_of_forall_lt get?_of_forall_lt)

variable {entries : List (String × Json)} {fields t : JsonObject} {value fragment target : Json}
  {key : String} {path rest : List String}

/-! ## Key by key -/

/-- What stands at a key after a value was merged into what stood there, if anything did. -/
def mergedOnto (value : Json) : Option Json → Json
  | some existing => value.mergedInto existing
  | none => value

@[simp] lemma mergedOnto_none (value : Json) : value.mergedOnto none = value := rfl

@[simp] lemma mergedOnto_some (value existing : Json) :
    value.mergedOnto (some existing) = value.mergedInto existing := rfl

lemma mergedInto_of_isObject_eq_false (h : value.isObject = false) (target : Json) :
    value.mergedInto target = value := by
  cases value with
  | obj fields => exact absurd h (by simp)
  | _ => rw [mergedInto]; simp

lemma mergedOnto_of_isObject_eq_false (h : value.isObject = false) (existing : Option Json) :
    value.mergedOnto existing = value := by
  cases existing with
  | none => rfl
  | some existing => exact mergedInto_of_isObject_eq_false h existing

lemma mergedInto_obj (fields t : JsonObject) :
    (Json.obj fields).mergedInto (.obj t) = .obj (mergeFields fields.entries t) := by
  rw [mergedInto]

/-- An object takes the place of a value that is none. -/
lemma obj_mergedInto_of_isObject_eq_false (fields : JsonObject) (h : target.isObject = false) :
    (Json.obj fields).mergedInto target = .obj fields := by
  cases target with
  | obj t => exact absurd h (by simp)
  | _ => rw [mergedInto]; simp

/-- Where there was no object, an object comes to stand as it is. -/
lemma obj_mergedOnto_of_forall_ne {existing : Option Json} (h : ∀ t, existing ≠ some (.obj t))
    (fields : JsonObject) : (Json.obj fields).mergedOnto existing = .obj fields := by
  cases existing with
  | none => rfl
  | some existing =>
    cases hobject : existing.isObject with
    | false => exact obj_mergedInto_of_isObject_eq_false fields hobject
    | true =>
      obtain ⟨t, rfl⟩ := exists_eq_obj_of_isObject hobject
      exact absurd rfl (h t)

@[simp] lemma mergeFields_nil (t : JsonObject) : mergeFields [] t = t := by
  rw [mergeFields]

lemma mergeFields_cons (key : String) (value : Json) (entries : List (String × Json))
    (t : JsonObject) :
    mergeFields ((key, value) :: entries) t =
      mergeFields entries (t.insert key (value.mergedOnto (t.get? key))) := by
  rw [mergeFields]
  cases t.get? key <;> rfl

/-- Merging does not touch the keys that the fragment does not have. -/
lemma get?_mergeFields_of_not_mem (h : key ∉ entries.map Prod.fst) (t : JsonObject) :
    (mergeFields entries t).get? key = t.get? key := by
  induction entries generalizing t with
  | nil => rw [mergeFields_nil]
  | cons entry entries ih =>
    obtain ⟨other, value⟩ := entry
    rw [List.map_cons, List.mem_cons, not_or] at h
    rw [mergeFields_cons, ih h.2, KeyMap.get?_insert, if_neg h.1]

lemma get?_mergeFields (h : (entries.map Prod.fst).Nodup) (t : JsonObject) (key : String) :
    (mergeFields entries t).get? key =
      match entries.lookup key with
      | some value => some (value.mergedOnto (t.get? key))
      | none => t.get? key := by
  induction entries generalizing t with
  | nil =>
    rw [mergeFields_nil]
    rfl
  | cons entry entries ih =>
    obtain ⟨first, value⟩ := entry
    rw [List.map_cons, List.nodup_cons] at h
    rw [mergeFields_cons, lookup_cons_eq_ite]
    by_cases hkey : key = first
    · subst hkey
      rw [get?_mergeFields_of_not_mem h.1, KeyMap.get?_insert, if_pos rfl, if_pos rfl]
    · rw [ih h.2, KeyMap.get?_insert, if_neg hkey, if_neg hkey]

/-- A key that the fragment does not have can be set before or after. -/
lemma mergeFields_insert (h : key ∉ entries.map Prod.fst) (t : JsonObject) (value : Json) :
    mergeFields entries (t.insert key value) = (mergeFields entries t).insert key value := by
  induction entries generalizing t with
  | nil => rw [mergeFields_nil, mergeFields_nil]
  | cons entry entries ih =>
    obtain ⟨other, inner⟩ := entry
    rw [List.map_cons, List.mem_cons, not_or] at h
    have hother : other ≠ key := Ne.symm h.1
    rw [mergeFields_cons, mergeFields_cons, KeyMap.get?_insert, if_neg hother,
      KeyMap.insert_comm hother, ih h.2]

lemma mergeFields_comm {entries' : List (String × Json)}
    (h : ∀ key ∈ entries.map Prod.fst, key ∉ entries'.map Prod.fst) (t : JsonObject) :
    mergeFields entries' (mergeFields entries t) =
      mergeFields entries (mergeFields entries' t) := by
  induction entries generalizing t with
  | nil => rw [mergeFields_nil, mergeFields_nil]
  | cons entry entries ih =>
    obtain ⟨key, value⟩ := entry
    rw [List.map_cons, List.forall_mem_cons] at h
    rw [mergeFields_cons, mergeFields_cons, ih h.2, mergeFields_insert h.1,
      get?_mergeFields_of_not_mem h.1]

/-- Fields in the order of their keys, merged behind smaller keys, are added as they are. -/
lemma mergeFields_of_forall_lt {done : List (String × Json)}
    (hsorted : entries.Pairwise fun a b => a.1 < b.1)
    (hdone : ∀ entry ∈ entries, ∀ earlier ∈ done, earlier.1 < entry.1) :
    mergeFields entries ⟨done⟩ = ⟨done ++ entries⟩ := by
  induction entries generalizing done with
  | nil => rw [mergeFields_nil, List.append_nil]
  | cons entry entries ih =>
    obtain ⟨key, value⟩ := entry
    rw [List.pairwise_cons] at hsorted
    rw [List.forall_mem_cons] at hdone
    have hnext : ∀ entry ∈ entries, ∀ earlier ∈ done ++ [(key, value)], earlier.1 < entry.1 := by
      intro entry hentry earlier hearlier
      rcases List.mem_append.1 hearlier with hearlier | hearlier
      · exact hdone.2 entry hentry earlier hearlier
      · obtain rfl := List.mem_singleton.1 hearlier
        exact hsorted.1 entry hentry
    rw [mergeFields_cons, get?_of_forall_lt hdone.1, mergedOnto_none, insert_of_forall_lt hdone.1,
      ih hsorted.2 hnext, List.append_assoc, List.singleton_append]

lemma mergeFields_empty (h : fields.Sorted) : mergeFields fields.entries .empty = fields := by
  have hempty : mergeFields fields.entries ⟨[]⟩ = ⟨[] ++ fields.entries⟩ :=
    mergeFields_of_forall_lt h (by simp)
  rwa [List.nil_append] at hempty

/-! ## Path by path -/

/-- A value that is no object stands on the way to the end of a path. -/
def ValueAbove (j : Json) (path : List String) : Prop :=
  ∃ front value, front <+: path ∧ front ≠ path ∧ PlainAt j front value

lemma not_valueAbove_nil (j : Json) : ¬ j.ValueAbove [] := by
  rintro ⟨front, value, hprefix, hne, -⟩
  exact hne (List.prefix_nil.1 hprefix)

/-- A value that is no object stands on the way to everything below it. -/
lemma valueAbove_of_isObject_eq_false (h : value.isObject = false) (hpath : path ≠ []) :
    value.ValueAbove path :=
  ⟨[], value, List.nil_prefix, Ne.symm hpath, at?_nil value, h⟩

lemma valueAbove_obj_cons_iff :
    (Json.obj fields).ValueAbove (key :: rest) ↔
      ∃ value, fields.get? key = some value ∧ value.ValueAbove rest := by
  constructor
  · rintro ⟨front, found, hprefix, hne, hplain⟩
    rcases front with _ | ⟨first, front⟩
    · exact absurd hplain (Document.opensAt_nil fields).not_plainAt
    · obtain ⟨rfl, hfront⟩ := List.cons_prefix_cons.1 hprefix
      obtain ⟨value, hget, hvalue⟩ := Document.plainAt_obj_cons_iff.1 hplain
      exact ⟨value, hget, front, found, hfront, fun heq => hne (congrArg _ heq), hvalue⟩
  · rintro ⟨value, hget, front, found, hfront, hne, hvalue⟩
    refine ⟨key :: front, found, List.cons_prefix_cons.2 ⟨rfl, hfront⟩, ?_, ?_⟩
    · exact fun heq => hne (List.cons.inj heq).2
    · exact Document.plainAt_obj_cons_iff.2 ⟨value, hget, hvalue⟩

/-- Nothing stands below a value that is no object. -/
lemma at?_of_valueAbove {j : Json} (h : j.ValueAbove path) : j.at? path = none := by
  induction path generalizing j with
  | nil => exact absurd h (not_valueAbove_nil j)
  | cons key rest ih =>
    cases hobject : j.isObject with
    | false => exact at?_cons_of_isObject_eq_false hobject key rest
    | true =>
      obtain ⟨fields, rfl⟩ := exists_eq_obj_of_isObject hobject
      obtain ⟨value, hget, hvalue⟩ := valueAbove_obj_cons_iff.1 h
      rw [at?_obj_cons, hget, Option.bind_some, ih hvalue]

open Classical in
/-- **What stands at the end of a path** after a merge is what the fragment has there, merged into
what stood there.  Where the fragment has nothing, nothing stands below its values, and everything
else stays. -/
theorem at?_merge (hfragment : fragment.Ordered) (target : Json) (path : List String) :
    (target.merge fragment).at? path =
      match fragment.at? path with
      | some value => some (value.mergedOnto (target.at? path))
      | none => if fragment.ValueAbove path then none else target.at? path := by
  induction path generalizing fragment target with
  | nil =>
    rw [at?_nil, at?_nil, at?_nil]
    rfl
  | cons key rest ih =>
    cases hobject : fragment.isObject with
    | false =>
      have habove : fragment.ValueAbove (key :: rest) :=
        valueAbove_of_isObject_eq_false hobject (List.cons_ne_nil _ _)
      rw [merge, mergedInto_of_isObject_eq_false hobject, at?_cons_of_isObject_eq_false hobject]
      exact (if_pos habove).symm
    | true =>
      obtain ⟨fields, rfl⟩ := exists_eq_obj_of_isObject hobject
      cases htarget : target.isObject with
      | false =>
        -- nothing stands below the target, so the fragment is all there is
        rw [merge, obj_mergedInto_of_isObject_eq_false fields htarget,
          at?_cons_of_isObject_eq_false htarget]
        cases (Json.obj fields).at? (key :: rest) with
        | none => rw [ite_self]
        | some value => rfl
      | true =>
        obtain ⟨t, rfl⟩ := exists_eq_obj_of_isObject htarget
        have hnodup : fields.keys.Nodup := (ordered_obj_iff.1 hfragment).1.nodup_keys
        have hmerged := get?_mergeFields hnodup t key
        rw [merge, mergedInto_obj, at?_obj_cons, at?_obj_cons fields, at?_obj_cons t, hmerged]
        simp only [valueAbove_obj_cons_iff]
        cases hget : fields.get? key with
        | none =>
          rw [KeyMap.get?] at hget
          simp [hget]
        | some value =>
          have hvalue := ordered_of_get? hfragment hget
          rw [KeyMap.get?] at hget
          cases t.get? key with
          | none =>
            simp only [hget, Option.bind_some, Option.bind_none, mergedOnto_none, ite_self]
            cases value.at? rest <;> rfl
          | some existing =>
            have hbelow := ih hvalue existing
            rw [merge] at hbelow
            simp [hget, hbelow]

/-! ## Merging again -/

mutual

/-- A value is absorbed by what it was made into, whatever was there before. -/
theorem mergedInto_mergedOnto (value : Json) (h : value.Ordered) (existing : Option Json) :
    value.mergedInto (value.mergedOnto existing) = value.mergedOnto existing := by
  match value with
  | .obj ⟨entries⟩ =>
    rw [Ordered] at h
    have hnodup : (entries.map Prod.fst).Nodup := KeyMap.Sorted.nodup_keys h.1
    have hagain := mergeFields_mergeFields entries hnodup h.2
    have hself : (Json.obj ⟨entries⟩).mergedInto (.obj ⟨entries⟩) = .obj ⟨entries⟩ := by
      have hempty : mergeFields entries .empty = ⟨entries⟩ := mergeFields_empty h.1
      have hempties := hagain .empty
      rw [hempty] at hempties
      rw [mergedInto_obj, hempties]
    by_cases hopens : ∃ t, existing = some (.obj t)
    · obtain ⟨t, rfl⟩ := hopens
      rw [mergedOnto_some, mergedInto_obj, mergedInto_obj, hagain]
    · rw [obj_mergedOnto_of_forall_ne (not_exists.1 hopens), hself]
  | .null | .bool _ | .int _ | .float _ | .str _ | .arr _ =>
    rw [mergedOnto_of_isObject_eq_false rfl, mergedInto_of_isObject_eq_false rfl]

theorem mergeFields_mergeFields (entries : List (String × Json))
    (hnodup : (entries.map Prod.fst).Nodup) (h : OrderedFields entries) (t : JsonObject) :
    mergeFields entries (mergeFields entries t) = mergeFields entries t := by
  match entries with
  | [] => rw [mergeFields_nil, mergeFields_nil]
  | (key, value) :: rest =>
    rw [List.map_cons, List.nodup_cons] at hnodup
    rw [OrderedFields] at h
    have habsorbed := mergedInto_mergedOnto value h.1 (t.get? key)
    rw [mergeFields_cons key value rest t]
    generalize value.mergedOnto (t.get? key) = merged at habsorbed ⊢
    have hrest := mergeFields_mergeFields rest hnodup.2 h.2 (t.insert key merged)
    -- the key is set again to what it is already
    have hget : (mergeFields rest (t.insert key merged)).get? key = some merged := by
      rw [get?_mergeFields_of_not_mem hnodup.1, KeyMap.get?_insert, if_pos rfl]
    have hset : (mergeFields rest (t.insert key merged)).insert key merged =
        mergeFields rest (t.insert key merged) := by
      rw [← mergeFields_insert hnodup.1, KeyMap.insert_insert_self]
    rw [mergeFields_cons, hget, mergedOnto_some, habsorbed, hset, hrest]

end

lemma merge_merge_self (h : fragment.Ordered) (target : Json) :
    (target.merge fragment).merge fragment = target.merge fragment :=
  mergedInto_mergedOnto fragment h (some target)

/-! ## Well-formed objects -/

mutual

theorem ordered_mergedInto (value : Json) (h : value.Ordered) {target : Json}
    (htarget : target.Ordered) : (value.mergedInto target).Ordered := by
  match value with
  | .obj ⟨entries⟩ =>
    cases hobject : target.isObject with
    | false =>
      rw [obj_mergedInto_of_isObject_eq_false _ hobject]
      exact h
    | true =>
      obtain ⟨t, rfl⟩ := exists_eq_obj_of_isObject hobject
      rw [Ordered] at h
      rw [mergedInto_obj]
      exact ordered_mergeFields entries h.2 htarget
  | .null | .bool _ | .int _ | .float _ | .str _ | .arr _ =>
    rw [mergedInto_of_isObject_eq_false rfl]
    exact h

theorem ordered_mergeFields (entries : List (String × Json)) (h : OrderedFields entries)
    {t : JsonObject} (ht : (Json.obj t).Ordered) : (Json.obj (mergeFields entries t)).Ordered := by
  match entries with
  | [] =>
    rw [mergeFields_nil]
    exact ht
  | (key, value) :: rest =>
    rw [OrderedFields] at h
    have hvalue : (value.mergedOnto (t.get? key)).Ordered := by
      cases hget : t.get? key with
      | none => exact h.1
      | some existing => exact ordered_mergedInto value h.1 (ordered_of_get? ht hget)
    rw [mergeFields_cons]
    exact ordered_mergeFields rest h.2 (ordered_insert ht hvalue)

end

/-! ## The main statement -/

/-- **Merging, path by path.**  At the end of a path in a merged object stands what the fragment has
there, if that is no object; if it is one, an object stands there, and where the path led to an
object before, that is merged in turn.  Nothing stands below the values of the fragment that are no
objects, and everything else stays.  So merging a fragment for a second time changes nothing, and
fragments without a common key can be merged in either order; well-formed objects stay
well-formed. -/
theorem merged_value_at_path (f : OrderedObject) (t : JsonObject) :
    (∀ path ≠ [],
      (∀ value, PlainAt (.obj f.fields) path value →
        PlainAt ((Json.obj t).merge (.obj f.fields)) path value) ∧
      (∀ inner, (Json.obj f.fields).at? path = some (.obj inner) →
        OpensAt ((Json.obj t).merge (.obj f.fields)) path ∧
        (¬ OpensAt (.obj t) path →
          ((Json.obj t).merge (.obj f.fields)).at? path = some (.obj inner)) ∧
        (∀ existing, (Json.obj t).at? path = some (.obj existing) →
          ((Json.obj t).merge (.obj f.fields)).at? path =
            some ((Json.obj existing).merge (.obj inner)))) ∧
      ((Json.obj f.fields).ValueAbove path →
        ((Json.obj t).merge (.obj f.fields)).at? path = none) ∧
      ((Json.obj f.fields).at? path = none → ¬ (Json.obj f.fields).ValueAbove path →
        ((Json.obj t).merge (.obj f.fields)).at? path = (Json.obj t).at? path)) ∧
    ((Json.obj t).Ordered → ((Json.obj t).merge (.obj f.fields)).Ordered) ∧
    ((Json.obj t).merge (.obj f.fields)).merge (.obj f.fields) =
      (Json.obj t).merge (.obj f.fields) ∧
    (∀ g : JsonObject, (∀ key ∈ f.fields.keys, key ∉ g.keys) →
      ((Json.obj t).merge (.obj f.fields)).merge (.obj g) =
        ((Json.obj t).merge (.obj g)).merge (.obj f.fields)) := by
  refine ⟨fun path _ => ⟨?_, ?_, ?_, ?_⟩, fun ht => ordered_mergedInto _ f.ordered ht,
    merge_merge_self f.ordered _, ?_⟩
  · rintro value ⟨hvalue, hplain⟩
    have hpath := at?_merge f.ordered (.obj t) path
    simp only [hvalue, mergedOnto_of_isObject_eq_false hplain] at hpath
    exact ⟨hpath, hplain⟩
  · intro inner hinner
    have hpath := at?_merge f.ordered (.obj t) path
    simp only [hinner] at hpath
    have hnew : ¬ OpensAt (.obj t) path →
        ((Json.obj t).merge (.obj f.fields)).at? path = some (.obj inner) := by
      intro hopens
      rw [hpath, obj_mergedOnto_of_forall_ne fun existing hexisting => hopens ⟨existing, hexisting⟩]
    have hjoined : ∀ existing, (Json.obj t).at? path = some (.obj existing) →
        ((Json.obj t).merge (.obj f.fields)).at? path =
          some ((Json.obj existing).merge (.obj inner)) := by
      intro existing hexisting
      rw [hpath, hexisting, mergedOnto_some, merge]
    refine ⟨?_, hnew, hjoined⟩
    by_cases hopens : OpensAt (.obj t) path
    · obtain ⟨existing, hexisting⟩ := hopens
      refine ⟨mergeFields inner.entries existing, ?_⟩
      rw [hjoined existing hexisting, merge, mergedInto_obj]
    · exact ⟨inner, hnew hopens⟩
  · intro habove
    rw [at?_merge f.ordered, at?_of_valueAbove habove]
    exact if_pos habove
  · intro hnone habove
    rw [at?_merge f.ordered, hnone]
    exact if_neg habove
  · intro g hkeys
    simp only [merge, mergedInto_obj]
    rw [mergeFields_comm hkeys]

/-- Below `a` an object replaces the number at `b` and a number the object at `d`; the array at `c`
is replaced as a whole, and `k` stays. -/
theorem merged_value_at_path_of_clashes :
    let t : JsonObject := ⟨[("a", .obj ⟨[("b", .int 1), ("d", .obj ⟨[("e", .int 2)]⟩)]⟩),
      ("c", .arr [.int 1]), ("k", .int 5)]⟩
    let f : JsonObject := ⟨[("a", .obj ⟨[("b", .obj ⟨[("x", .int 3)]⟩), ("d", .int 4)]⟩),
      ("c", .arr [.int 2])]⟩
    let merged := (Json.obj t).merge (.obj f)
    (Json.obj f).Ordered ∧ merged.at? ["c"] = some (.arr [.int 2]) ∧
      merged.at? ["a", "b"] = some (.obj ⟨[("x", .int 3)]⟩) ∧
      merged.at? ["a", "d", "e"] = none ∧ merged.at? ["k"] = some (.int 5) ∧
      merged.merge (.obj f) = merged := by
  intro t f merged
  have hf : (Json.obj f).Ordered := by
    simp only [f, Ordered, OrderedFields, OrderedItems, and_true]
    decide +kernel
  obtain ⟨hpaths, -, htwice, -⟩ := merged_value_at_path ⟨f, hf⟩ t
  refine ⟨hf, ((hpaths ["c"] (by simp)).1 (.arr [.int 2]) ⟨?_, rfl⟩).1,
    ((hpaths ["a", "b"] (by simp)).2.1 ⟨[("x", .int 3)]⟩ ?_).2.1 ?_,
    (hpaths ["a", "d", "e"] (by simp)).2.2.1 ⟨["a", "d"], .int 4, ?_, by simp, ?_, rfl⟩,
    ((hpaths ["k"] (by simp)).2.2.2 ?_ ?_).trans ?_, htwice⟩
  · rfl
  · rfl
  · rintro ⟨inner, hinner⟩
    have hone : (Json.obj t).at? ["a", "b"] = some (.int 1) := rfl
    exact nomatch hone.symm.trans hinner
  · exact ⟨["e"], rfl⟩
  · rfl
  · rfl
  · intro habove
    obtain ⟨value, hvalue, -⟩ := valueAbove_obj_cons_iff.1 habove
    have hnone : f.get? "k" = none := rfl
    exact nomatch hnone.symm.trans hvalue
  · rfl

end SearchGateway.Json
