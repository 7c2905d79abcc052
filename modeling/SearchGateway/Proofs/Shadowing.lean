import Mathlib.Data.List.Induction
import Mathlib.Tactic.Lemma
import SearchGateway.Proofs.DocumentJson
import SearchGateway.Proofs.RoundTrip

/-!
# What unflattening loses

A flat object may hold a value under a name and other values under names that go on after it, as
in `a` and `a__b`.  In the nested form there is an object where the first value would stand, and
that value is lost; it is *shadowed*.  What counts are the pieces of the names and not their
characters: `a_` does not go on after `a`, and neither does `a___b` go on after `a_`.

Flattening the nested form gives the flat object back without the shadowed values, and nothing else
is lost or changed (`flatten_unflatten_eq_without_shadowed`).  The proof follows one value that is
put in place: it stands at the end of its path, unless there is an object already, and objects
stand all the way to it.  From this step the two run lemmas say where objects and where values
stand after all values were put in place (`opensAt_placeAll_iff`, `plainAt_placeAll_iff`), and they
do not depend on the order.
-/
namespace SearchGateway.Document

/-! ## What stands at the end of a path -/

/-- A value that is no object stands at the end of a path. -/
def PlainAt (j : Json) (path : List String) (value : Json) : Prop :=
  j.at? path = some value ∧ value.isObject = false

/-- An object stands at the end of a path. -/
def OpensAt (j : Json) (path : List String) : Prop := ∃ inner, j.at? path = some (.obj inner)

variable {d : JsonObject} {j value found : Json} {p q rest : List String} {key : String}

lemma at?_cons_of_isObject_eq_false (h : value.isObject = false) (key : String)
    (rest : List String) : value.at? (key :: rest) = none := by
  cases value with
  | obj fields => exact absurd h (by simp)
  | _ => rfl

lemma at?_obj_cons (d : JsonObject) (key : String) (rest : List String) :
    (Json.obj d).at? (key :: rest) = (d.get? key).bind (·.at? rest) := by
  rw [Json.at?_cons]
  rfl

lemma at?_empty_cons (key : String) (rest : List String) :
    (Json.obj .empty).at? (key :: rest) = none := by
  rw [at?_obj_cons]
  rfl

lemma exists_eq_obj_of_isObject (h : j.isObject = true) : ∃ fields, j = .obj fields := by
  cases j with
  | obj fields => exact ⟨fields, rfl⟩
  | _ => exact absurd h (by simp [Json.isObject, Json.fields?])

/-- The same place cannot hold an object and a value that is none. -/
lemma OpensAt.not_plainAt (h : OpensAt j q) : ¬ PlainAt j q found := by
  rintro ⟨hfound, hplain⟩
  obtain ⟨inner, hinner⟩ := h
  obtain rfl : Json.obj inner = found := Option.some.inj (hinner.symm.trans hfound)
  exact absurd hplain (by simp)

lemma opensAt_nil (d : JsonObject) : OpensAt (.obj d) [] := ⟨d, Json.at?_nil _⟩

/-- Below a key, an object is followed as the object at the key. -/
lemma at?_child (hrest : rest ≠ []) (d : JsonObject) (key : String) :
    (Json.obj (child d key)).at? rest = (Json.obj d).at? (key :: rest) := by
  obtain ⟨next, rest, rfl⟩ := List.exists_cons_of_ne_nil hrest
  rw [at?_obj_cons d, child]
  rcases d.get? key with _ | existing
  · rfl
  · cases existing with
    | obj inner => rfl
    | _ => rfl

/-- A value that is no object stands at the end of the empty path, and nothing stands below it. -/
lemma plainAt_of_isObject_eq_false (h : value.isObject = false) :
    PlainAt value q found ↔ (q, found) = ([], value) := by
  rw [PlainAt, Prod.mk.injEq]
  rcases q with _ | ⟨key, rest⟩
  · rw [Json.at?_nil, Option.some.injEq]
    constructor
    · rintro ⟨rfl, -⟩
      exact ⟨rfl, rfl⟩
    · rintro ⟨-, rfl⟩
      exact ⟨rfl, h⟩
  · rw [at?_cons_of_isObject_eq_false h]
    simp

lemma plainAt_obj_cons_iff :
    PlainAt (.obj d) (key :: rest) found ↔
      ∃ value, d.get? key = some value ∧ PlainAt value rest found := by
  rw [PlainAt, at?_obj_cons, Option.bind_eq_some_iff]
  simp only [PlainAt, ← exists_and_right, and_assoc]

/-- The leaves of a value are what stands at the ends of paths and is no object. -/
lemma mem_leaves_iff_plainAt (hord : value.Ordered) :
    (q, found) ∈ leaves value ↔ PlainAt value q found := by
  induction q generalizing value with
  | nil =>
    cases hvalue : value.isObject with
    | false =>
      rw [leaves_of_isObject_eq_false hvalue, plainAt_of_isObject_eq_false hvalue,
        List.mem_singleton]
    | true =>
      obtain ⟨fields, rfl⟩ := exists_eq_obj_of_isObject hvalue
      refine iff_of_false (fun hmem => ?_) (opensAt_nil fields).not_plainAt
      exact path_ne_nil_of_mem_fieldLeaves hmem rfl
  | cons key rest ih =>
    cases hvalue : value.isObject with
    | false =>
      rw [leaves_of_isObject_eq_false hvalue, plainAt_of_isObject_eq_false hvalue,
        List.mem_singleton]
    | true =>
      obtain ⟨fields, rfl⟩ := exists_eq_obj_of_isObject hvalue
      rw [Json.ordered_obj_iff] at hord
      rw [plainAt_obj_cons_iff]
      constructor
      · intro hmem
        obtain ⟨⟨key', value⟩, hfield, ⟨rest', found'⟩, hinner, heq⟩ := mem_fieldLeaves.1 hmem
        simp only [under, Prod.mk.injEq, List.cons.injEq] at heq
        obtain ⟨⟨rfl, rfl⟩, rfl⟩ := heq
        exact ⟨value, lookup_eq_some_of_mem hord.1.nodup_keys hfield,
          (ih (hord.2 _ hfield)).1 hinner⟩
      · rintro ⟨value, hget, hplain⟩
        have hfield := KeyMap.mem_of_get?_eq_some hget
        exact mem_fieldLeaves.2
          ⟨_, hfield, (rest, found), (ih (hord.2 _ hfield)).2 hplain, rfl⟩

/-! ## One value -/

lemma at?_place_of_ne {key' : String} (h : key' ≠ key) (d : JsonObject) (path : List String)
    (value : Json) (rest : List String) :
    (Json.obj (place d (key :: path) value)).at? (key' :: rest) =
      (Json.obj d).at? (key' :: rest) := by
  rw [at?_obj_cons, at?_obj_cons, get?_place_of_ne h]

lemma at?_place_cons_cons (d : JsonObject) (key next : String) (path : List String) (value : Json)
    (rest : List String) :
    (Json.obj (place d (key :: next :: path) value)).at? (key :: rest) =
      (Json.obj (place (child d key) (next :: path) value)).at? rest := by
  rw [at?_obj_cons, place_cons_cons, KeyMap.get?_insert, if_pos rfl, Option.bind_some]

lemma opensAt_singleton_iff : OpensAt (.obj d) [key] ↔ (d.get? key).any Json.isObject = true := by
  rw [OpensAt, at?_obj_cons]
  rcases d.get? key with _ | existing
  · simp
  · simp only [Option.bind_some, Json.at?_nil, Option.some.injEq, Option.any_some]
    constructor
    · rintro ⟨inner, rfl⟩
      rfl
    · exact exists_eq_obj_of_isObject

lemma place_singleton_of_opensAt (h : OpensAt (.obj d) [key]) (value : Json) :
    place d [key] value = d := by
  rw [place_cons, placedAt, if_pos (opensAt_singleton_iff.1 h)]

lemma place_singleton_of_not_opensAt (h : ¬ OpensAt (.obj d) [key]) (value : Json) :
    place d [key] value = d.insert key value := by
  rw [place_cons, placedAt, if_neg (mt opensAt_singleton_iff.2 h)]

/-- A value has nothing below it, and it is put under a key only if nothing was below the key. -/
lemma at?_place_singleton (hvalue : value.isObject = false) (hrest : rest ≠ []) :
    (Json.obj (place d [key] value)).at? (key :: rest) = (Json.obj d).at? (key :: rest) := by
  obtain ⟨next, rest, rfl⟩ := List.exists_cons_of_ne_nil hrest
  by_cases hopen : OpensAt (.obj d) [key]
  · rw [place_singleton_of_opensAt hopen]
  · rw [place_singleton_of_not_opensAt hopen, at?_obj_cons, at?_obj_cons d, KeyMap.get?_insert,
      if_pos rfl, Option.bind_some, at?_cons_of_isObject_eq_false hvalue]
    rw [opensAt_singleton_iff] at hopen
    rcases hget : d.get? key with _ | existing
    · rfl
    · have hplain : existing.isObject = false := by simpa [hget] using hopen
      exact (at?_cons_of_isObject_eq_false hplain _ _).symm

/-- A value that is put in place changes nothing at the end of a path that does not lead to it. -/
lemma at?_place_of_not_isPrefix (hvalue : value.isObject = false) (h : ¬ q <+: p) :
    (Json.obj (place d p value)).at? q = (Json.obj d).at? q := by
  induction p generalizing d q with
  | nil => rw [place]
  | cons key path ih =>
    rcases q with _ | ⟨key', rest⟩
    · exact absurd List.nil_prefix h
    by_cases hkey : key' = key
    · subst hkey
      have hpre : ¬ rest <+: path := by simpa [List.cons_prefix_cons] using h
      have hrest : rest ≠ [] := by
        rintro rfl
        exact hpre List.nil_prefix
      rcases path with _ | ⟨next, path⟩
      · exact at?_place_singleton hvalue hrest
      · rw [at?_place_cons_cons, ih hpre, at?_child hrest]
    · exact at?_place_of_ne hkey d path value rest

/-- Objects stand all the way to a value that was put in place. -/
lemma opensAt_place_of_isPrefix (h : q <+: p) (hne : q ≠ p) :
    OpensAt (.obj (place d p value)) q := by
  induction p generalizing d q with
  | nil => exact absurd (List.prefix_nil.1 h) hne
  | cons key path ih =>
    rcases q with _ | ⟨key', rest⟩
    · exact opensAt_nil _
    obtain ⟨rfl, hrest⟩ := List.cons_prefix_cons.1 h
    have hne' : rest ≠ path := fun heq => hne (congrArg _ heq)
    rcases path with _ | ⟨next, path⟩
    · exact absurd (List.prefix_nil.1 hrest) hne'
    · rw [OpensAt, at?_place_cons_cons]
      exact ih hrest hne'

/-- An object stays where it is when a value is put in its place. -/
lemma opensAt_place_self (h : OpensAt (.obj d) p) : OpensAt (.obj (place d p value)) p := by
  induction p generalizing d with
  | nil => exact opensAt_nil _
  | cons key path ih =>
    rcases path with _ | ⟨next, path⟩
    · rw [place_singleton_of_opensAt h]
      exact h
    · rw [OpensAt, ← at?_child (List.cons_ne_nil _ _)] at h
      rw [OpensAt, at?_place_cons_cons]
      exact ih h

/-- Where no object stands, a value that was put in place is found. -/
lemma at?_place_self (hp : p ≠ []) (h : ¬ OpensAt (.obj d) p) :
    (Json.obj (place d p value)).at? p = some value := by
  induction p generalizing d with
  | nil => exact absurd rfl hp
  | cons key path ih =>
    rcases path with _ | ⟨next, path⟩
    · rw [place_singleton_of_not_opensAt h, at?_obj_cons, KeyMap.get?_insert, if_pos rfl,
        Option.bind_some, Json.at?_nil]
    · rw [OpensAt, ← at?_child (List.cons_ne_nil _ _)] at h
      rw [at?_place_cons_cons]
      exact ih (List.cons_ne_nil _ _) h

/-- Where objects stand after a value was put in place. -/
theorem opensAt_place_iff (hp : p ≠ []) (hvalue : value.isObject = false) :
    OpensAt (.obj (place d p value)) q ↔ OpensAt (.obj d) q ∨ (q <+: p ∧ q ≠ p) := by
  by_cases hpre : q <+: p
  · by_cases hq : q = p
    · subst hq
      refine ⟨fun h => .inl ?_, fun h => ?_⟩
      · by_contra hopen
        obtain ⟨inner, hinner⟩ := h
        rw [at?_place_self hp hopen, Option.some.injEq] at hinner
        subst hinner
        exact absurd hvalue (by simp)
      · exact opensAt_place_self (h.resolve_right fun hne => hne.2 rfl)
    · exact iff_of_true (opensAt_place_of_isPrefix hpre hq) (.inr ⟨hpre, hq⟩)
  · simp [OpensAt, at?_place_of_not_isPrefix hvalue hpre, hpre]

/-- Which values stand where after a value was put in place. -/
theorem plainAt_place_iff (hp : p ≠ []) (hvalue : value.isObject = false) :
    PlainAt (.obj (place d p value)) q found ↔
      (q = p ∧ found = value ∧ ¬ OpensAt (.obj d) p) ∨
        (¬ q <+: p ∧ PlainAt (.obj d) q found) := by
  by_cases hpre : q <+: p
  · by_cases hq : q = p
    · subst hq
      by_cases hopen : OpensAt (.obj d) q
      · simp [(opensAt_place_self hopen).not_plainAt, hopen]
      · rw [PlainAt, at?_place_self hp hopen]
        constructor
        · rintro ⟨hfound, -⟩
          exact .inl ⟨rfl, (Option.some.inj hfound).symm, hopen⟩
        · rintro (⟨-, rfl, -⟩ | ⟨hnot, -⟩)
          · exact ⟨rfl, hvalue⟩
          · exact absurd hpre hnot
    · simp [(opensAt_place_of_isPrefix hpre hq).not_plainAt, hpre, hq]
  · have hq : q ≠ p := fun heq => hpre (heq ▸ List.prefix_rfl)
    simp [PlainAt, at?_place_of_not_isPrefix hvalue hpre, hpre, hq]

/-! ## Many values -/

variable {l : List (List String × Json)}

lemma placeAll_append_singleton (fields : JsonObject) (l : List (List String × Json))
    (leaf : List String × Json) :
    placeAll fields (l ++ [leaf]) = place (placeAll fields l) leaf.1 leaf.2 := by
  rw [placeAll, List.foldl_append]
  rfl

/-- Objects stand on the ways to the values that were put in place, and nowhere else. -/
theorem opensAt_placeAll_iff (h : ∀ leaf ∈ l, leaf.1 ≠ [] ∧ leaf.2.isObject = false)
    (hq : q ≠ []) :
    OpensAt (.obj (placeAll .empty l)) q ↔ ∃ leaf ∈ l, q <+: leaf.1 ∧ q ≠ leaf.1 := by
  induction l using List.reverseRecOn with
  | nil =>
    obtain ⟨key, rest, rfl⟩ := List.exists_cons_of_ne_nil hq
    simp [OpensAt, placeAll, -Json.at?_cons, at?_empty_cons]
  | append_singleton l leaf ih =>
    rw [List.forall_mem_append, List.forall_mem_singleton] at h
    rw [placeAll_append_singleton, opensAt_place_iff h.2.1 h.2.2, ih h.1]
    simp only [List.mem_append, List.mem_singleton, or_and_right, exists_or, exists_eq_left]

/-- A value stands where it was put in place, unless the way to another one goes on after it. -/
theorem plainAt_placeAll_iff (h : ∀ leaf ∈ l, leaf.1 ≠ [] ∧ leaf.2.isObject = false)
    (hpaths : (l.map Prod.fst).Nodup) :
    PlainAt (.obj (placeAll .empty l)) q found ↔
      (q, found) ∈ l ∧ ∀ leaf ∈ l, ¬ (q <+: leaf.1 ∧ q ≠ leaf.1) := by
  induction l using List.reverseRecOn with
  | nil =>
    cases q with
    | nil => simpa using (opensAt_nil _).not_plainAt
    | cons key rest => simp [PlainAt, placeAll, -Json.at?_cons, at?_empty_cons]
  | append_singleton l leaf ih =>
    obtain ⟨p, value⟩ := leaf
    rw [List.forall_mem_append, List.forall_mem_singleton] at h
    rw [List.map_append, List.nodup_append] at hpaths
    have hnew : ∀ leaf ∈ l, leaf.1 ≠ p := fun leaf hleaf =>
      hpaths.2.2 leaf.1 (List.mem_map_of_mem hleaf) p (by simp)
    rw [placeAll_append_singleton, plainAt_place_iff h.2.1 h.2.2, opensAt_placeAll_iff h.1 h.2.1,
      ih h.1 hpaths.1, List.forall_mem_append, List.forall_mem_singleton, List.mem_append,
      List.mem_singleton, Prod.mk.injEq]
    by_cases hq : q = p
    · -- the path of the last value is not the path of any other
      subst hq
      have hnot : (q, found) ∉ l := fun hmem => hnew _ hmem rfl
      simp [hnot]
    · simp only [hq, false_and, false_or, or_false, ne_eq, not_false_eq_true, and_true]
      tauto

/-! ## Objects that were unflattened -/

lemma ordered_child (h : (Json.obj d).Ordered) (key : String) :
    (Json.obj (child d key)).Ordered := by
  rw [child]
  rcases hget : d.get? key with _ | existing
  · exact Json.ordered_empty
  · have hexisting := (Json.ordered_obj_iff.1 h).2 _ (KeyMap.mem_of_get?_eq_some hget)
    cases existing with
    | obj inner => exact hexisting
    | _ => exact Json.ordered_empty

lemma ordered_place (h : (Json.obj d).Ordered) (hvalue : value.Ordered) (p : List String) :
    (Json.obj (place d p value)).Ordered := by
  induction p generalizing d with
  | nil =>
    rw [place]
    exact h
  | cons key path ih =>
    rcases path with _ | ⟨next, path⟩
    · rw [place]
      split
      · exact h
      · exact Json.ordered_insert h hvalue
    · rw [place_cons_cons]
      exact Json.ordered_insert h (ih (ordered_child h key))

/-- Unflattening keeps the keys in order at every level. -/
lemma ordered_unflatten (f : OrderedObject) : (Json.obj (unflatten f.fields)).Ordered := by
  rw [unflatten]
  refine List.foldlRecOn (motive := fun fields => (Json.obj fields).Ordered) f.fields.entries _
    Json.ordered_empty fun fields hfields entry hentry => ?_
  exact ordered_place hfields ((Json.ordered_obj_iff.1 f.ordered).2 entry hentry) _

/-- The nested form of a flat object, with its keys in order. -/
def orderedUnflatten (f : OrderedObject) : OrderedObject :=
  ⟨unflatten f.fields, ordered_unflatten f⟩

/-- A name shadows another one when its pieces go on after the pieces of the other. -/
def Shadows (longer key : String) : Prop :=
  FieldName.parts key <+: FieldName.parts longer ∧ FieldName.parts key ≠ FieldName.parts longer

instance (longer key : String) : Decidable (Shadows longer key) :=
  inferInstanceAs (Decidable (_ ∧ _))

/-- The names in a flat object that are shadowed by other names in it. -/
def shadowedKeys (f : JsonObject) : List String :=
  f.keys.filter fun key => f.keys.any fun longer => Shadows longer key

lemma mem_shadowedKeys {f : JsonObject} :
    key ∈ shadowedKeys f ↔ key ∈ f.keys ∧ ∃ longer ∈ f.keys, Shadows longer key := by
  simp [shadowedKeys]

/-- The leaves of an unflattened object are the values that are not shadowed. -/
lemma mem_fieldLeaves_unflatten_iff (f : OrderedObject)
    (hplain : ∀ entry ∈ f.fields.entries, entry.2.isObject = false) :
    (q, found) ∈ fieldLeaves (unflatten f.fields).entries ↔
      ∃ entry ∈ f.fields.entries, FieldName.parts entry.1 = q ∧ entry.2 = found ∧
        entry.1 ∉ shadowedKeys f.fields := by
  have hkeys : f.fields.keys.Nodup := f.sorted.nodup_keys
  have hpaths : ((f.fields.entries.map fun entry => (FieldName.parts entry.1, entry.2)).map
      Prod.fst).Nodup := by
    have hmap := hkeys.map FieldName.parts_injective
    simpa [KeyMap.keys, Function.comp_def] using hmap
  have hleaf : ∀ leaf ∈ f.fields.entries.map fun entry => (FieldName.parts entry.1, entry.2),
      leaf.1 ≠ [] ∧ leaf.2.isObject = false := by
    intro leaf hmem
    obtain ⟨entry, hentry, rfl⟩ := List.mem_map.1 hmem
    exact ⟨FieldName.parts_ne_nil entry.1, hplain entry hentry⟩
  have hiff : (q, found) ∈ leaves (.obj (unflatten f.fields)) ↔
      PlainAt (.obj (unflatten f.fields)) q found :=
    mem_leaves_iff_plainAt (ordered_unflatten f)
  rw [leaves, unflatten_eq_placeAll, plainAt_placeAll_iff hleaf hpaths] at hiff
  rw [unflatten_eq_placeAll, hiff]
  constructor
  · rintro ⟨hmem, hlast⟩
    obtain ⟨entry, hentry, heq⟩ := List.mem_map.1 hmem
    obtain ⟨rfl, rfl⟩ := Prod.mk.inj heq
    refine ⟨entry, hentry, rfl, rfl, fun hshadowed => ?_⟩
    obtain ⟨-, longer, hlonger, hshadows⟩ := mem_shadowedKeys.1 hshadowed
    obtain ⟨other, hother, rfl⟩ := List.mem_map.1 hlonger
    exact hlast _ (List.mem_map_of_mem hother) hshadows
  · rintro ⟨entry, hentry, rfl, rfl, hnot⟩
    refine ⟨List.mem_map_of_mem hentry, fun leaf hmem hshadows => hnot ?_⟩
    obtain ⟨other, hother, rfl⟩ := List.mem_map.1 hmem
    exact mem_shadowedKeys.2
      ⟨List.mem_map_of_mem hentry, other.1, List.mem_map_of_mem hother, hshadows⟩

/-- **Unflattening loses the shadowed values only.**  Flattening the nested form of a flat object
gives the object without the values whose names are shadowed, so it gives the object itself exactly
when no name shadows another.  The nested form is always in normal form. -/
theorem flatten_unflatten_eq_without_shadowed (f : OrderedObject)
    (hplain : ∀ entry ∈ f.fields.entries, entry.2.isObject = false) :
    flatten (unflatten f.fields) = f.fields.without (shadowedKeys f.fields) ∧
      (flatten (unflatten f.fields) = f.fields ↔
        ∀ key ∈ f.fields.keys, ∀ longer ∈ f.fields.keys, ¬ Shadows longer key) ∧
      Normal (unflatten f.fields) := by
  have hnormal : Normal (unflatten f.fields) := normal_unflatten hplain
  have hnames : (((fieldLeaves (unflatten f.fields).entries).map named).map Prod.fst).Nodup :=
    nodup_names_of_separableKeys (orderedUnflatten f) hnormal.toSeparableKeys
  have hflatten : flatten (unflatten f.fields) = f.fields.without (shadowedKeys f.fields) := by
    rw [flatten_eq_ofList]
    refine (KeyMap.sorted_ofList _).eq_of_forall_mem (f.sorted.without _) fun entry => ?_
    rw [(KeyMap.ofList_perm hnames).mem_iff, KeyMap.mem_without, List.mem_map]
    constructor
    · rintro ⟨⟨path, found⟩, hleaf, rfl⟩
      obtain ⟨⟨key, value⟩, hentry, rfl, rfl, hnot⟩ :=
        (mem_fieldLeaves_unflatten_iff f hplain).1 hleaf
      simp only [named, FieldName.joined_parts]
      exact ⟨hentry, hnot⟩
    · rintro ⟨hentry, hnot⟩
      refine ⟨(FieldName.parts entry.1, entry.2), ?_, ?_⟩
      · exact (mem_fieldLeaves_unflatten_iff f hplain).2 ⟨entry, hentry, rfl, rfl, hnot⟩
      · simp only [named, FieldName.joined_parts]
  refine ⟨hflatten, ?_, hnormal⟩
  rw [hflatten, KeyMap.without_eq_self_iff]
  refine forall₂_congr fun key hkey => ?_
  simp [mem_shadowedKeys, hkey]

/-- Of these names only `a` and `a__b` are shadowed: `a_` and `a___b` have other pieces, and
`a____b` has an empty one. -/
theorem flatten_unflatten_of_underscores :
    let f : JsonObject := ⟨[("a", .int 1), ("a_", .int 2), ("a____b", .arr [.obj .empty]),
      ("a___b", .int 4), ("a__b", .null), ("a__b__c", .int 6)]⟩
    (Json.obj f).Ordered ∧ (∀ entry ∈ f.entries, entry.2.isObject = false) ∧
      flatten (unflatten f) = ⟨[("a_", .int 2), ("a____b", .arr [.obj .empty]),
        ("a___b", .int 4), ("a__b__c", .int 6)]⟩ ∧
      flatten (unflatten f) ≠ f ∧ Normal (unflatten f) := by
  intro f
  have hord : (Json.obj f).Ordered := by
    refine Json.ordered_obj_iff.2 ⟨by decide +kernel, ?_⟩
    have hempty := Json.ordered_empty
    simp only [f, List.forall_mem_cons, Json.Ordered, Json.OrderedItems]
    simpa [Json.Ordered] using hempty
  have hplain : ∀ entry ∈ f.entries, entry.2.isObject = false := by
    simp [f, Json.isObject, Json.fields?]
  obtain ⟨hflatten, hself, hnormal⟩ := flatten_unflatten_eq_without_shadowed ⟨f, hord⟩ hplain
  have hshadowed : shadowedKeys f = ["a", "a__b"] := by decide +kernel
  have hshort : "a" ∈ f.keys := by decide
  have hlong : "a__b" ∈ f.keys := by decide
  refine ⟨hord, hplain, ?_, fun heq => ?_, hnormal⟩
  · rw [hflatten, hshadowed]
    rfl
  · exact hself.1 heq "a" hshort "a__b" hlong (by decide +kernel)

end SearchGateway.Document
