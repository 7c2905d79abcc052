import Mathlib.Data.List.Induction
import Mathlib.Data.List.Nodup
import Mathlib.Tactic.Lemma
import SearchGateway.KeyMap

/-!
# Laws of ordered maps

Setting a key twice keeps the later value, and two different keys can be set in either
order; both laws hold of the lists of entries as they are, whether these are sorted or not.
A map that is built from entries with different keys has these entries and no others, in
whatever order they came, and an entry whose key lies above all the keys of a map is set at
the end.

The file also has the map without some of the keys, and the map that drops some values and
replaces the others, which is what filtering a map and then changing its values amounts to.
-/
namespace SearchGateway

/-! ## Looking up in lists of pairs -/

lemma lookup_cons_eq_ite {α : Type u} (name : String) (value : α) (rest : List (String × α))
    (wanted : String) :
    ((name, value) :: rest).lookup wanted =
      if wanted = name then some value else rest.lookup wanted := by
  by_cases h : wanted = name
  · simp [h]
  · have hb : (wanted == name) = false := by simpa using h
    simp [List.lookup_cons, hb, h]

/-- In a list of pairs no two of which have the same name, every pair is found by its name. -/
lemma lookup_eq_some_of_mem {α : Type u} {rows : List (String × α)} {name : String} {value : α}
    (hnodup : (rows.map Prod.fst).Nodup) (hmem : (name, value) ∈ rows) :
    rows.lookup name = some value := by
  obtain ⟨before, after, rfl⟩ := List.append_of_mem hmem
  refine List.lookup_eq_some_iff.2 ⟨before, after, rfl, fun row hrow => ?_⟩
  rw [List.map_append, List.nodup_append] at hnodup
  have hne : row.1 ≠ name :=
    hnodup.2.2 row.1 (List.mem_map_of_mem hrow) name (by simp)
  simpa using hne.symm

lemma mem_of_lookup_eq_some {α : Type u} {rows : List (String × α)} {name : String} {value : α}
    (h : rows.lookup name = some value) : (name, value) ∈ rows := by
  obtain ⟨before, after, rfl, -⟩ := List.lookup_eq_some_iff.1 h
  simp

/-- What does not stand in front of any value is not found. -/
lemma lookup_eq_none_of_not_mem {α : Type u} {rows : List (String × α)} {name : String}
    (h : name ∉ rows.map Prod.fst) : rows.lookup name = none := by
  refine List.lookup_eq_none_iff.2 fun row hrow => ?_
  have hne : row.1 ≠ name := fun heq => h (List.mem_map.2 ⟨row, hrow, heq⟩)
  simpa using hne.symm

namespace KeyMap

variable {α : Type u} {β : Type v} {γ : Type w}

/-! ## Setting a key -/

@[simp] lemma get?_empty (key : String) : (empty : KeyMap α).get? key = none := rfl

lemma lookup_insertEntry (key : String) (value : α) (entries : List (String × α))
    (wanted : String) :
    (insertEntry key value entries).lookup wanted =
      if wanted = key then some value else entries.lookup wanted := by
  induction entries with
  | nil => exact lookup_cons_eq_ite key value [] wanted
  | cons entry rest ih =>
    obtain ⟨k, v⟩ := entry
    simp only [insertEntry]
    split
    · exact lookup_cons_eq_ite key value _ wanted
    · split
      · next heq =>
        subst heq
        by_cases h : wanted = key <;> simp [lookup_cons_eq_ite, h]
      · by_cases h : wanted = k
        · subst h
          have : wanted ≠ key := fun e => by simp_all
          simp [this]
        · simp [lookup_cons_eq_ite, h, ih]

@[simp] lemma get?_insert (m : KeyMap α) (key : String) (value : α) (wanted : String) :
    (m.insert key value).get? wanted = if wanted = key then some value else m.get? wanted :=
  lookup_insertEntry key value m.entries wanted

lemma mem_insertEntry {key : String} {value : α} {entries : List (String × α)}
    {entry : String × α} (h : entry ∈ insertEntry key value entries) :
    entry = (key, value) ∨ entry ∈ entries := by
  induction entries with
  | nil => simpa [insertEntry] using h
  | cons first rest ih =>
    simp only [insertEntry] at h
    split at h
    · simpa using h
    · split at h
      · rcases List.mem_cons.1 h with h | h
        · exact .inl h
        · exact .inr (List.mem_cons_of_mem _ h)
      · rcases List.mem_cons.1 h with h | h
        · exact .inr (h ▸ List.mem_cons_self)
        · exact (ih h).imp id (List.mem_cons_of_mem _)

lemma sorted_insertEntry {key : String} {value : α} {entries : List (String × α)}
    (h : entries.Pairwise fun a b => a.1 < b.1) :
    (insertEntry key value entries).Pairwise fun a b => a.1 < b.1 := by
  induction entries with
  | nil => simp [insertEntry]
  | cons first rest ih =>
    obtain ⟨k, v⟩ := first
    rw [List.pairwise_cons] at h
    simp only [insertEntry]
    split
    case isTrue hlt =>
      refine List.pairwise_cons.2 ⟨fun e he => ?_, List.pairwise_cons.2 h⟩
      rcases List.mem_cons.1 he with rfl | he
      · exact hlt
      · exact String.lt_trans hlt (h.1 e he)
    case isFalse hnot =>
      split
      case isTrue heq => exact List.pairwise_cons.2 ⟨fun e he => heq ▸ h.1 e he, h.2⟩
      case isFalse hne =>
        refine List.pairwise_cons.2 ⟨fun e he => ?_, ih h.2⟩
        rcases mem_insertEntry he with rfl | he
        · exact Std.lt_of_le_of_ne (String.not_lt.1 hnot) (Ne.symm hne)
        · exact h.1 e he

lemma Sorted.insert {m : KeyMap α} (h : m.Sorted) (key : String) (value : α) :
    (m.insert key value).Sorted :=
  sorted_insertEntry h

lemma sorted_empty : (empty : KeyMap α).Sorted := List.Pairwise.nil

/-! ## Setting one key after another -/

section Entries

variable {key k : String} {value v : α} {rest : List (String × α)}

lemma insertEntry_cons_of_lt (h : key < k) :
    insertEntry key value ((k, v) :: rest) = (key, value) :: (k, v) :: rest := by
  rw [insertEntry, if_pos h]

lemma insertEntry_cons_self : insertEntry key value ((key, v) :: rest) = (key, value) :: rest := by
  rw [insertEntry, if_neg (String.lt_irrefl key), if_pos rfl]

lemma insertEntry_cons_of_gt (h : k < key) :
    insertEntry key value ((k, v) :: rest) = (k, v) :: insertEntry key value rest := by
  have hnot : ¬ key < k := fun h' => String.lt_irrefl _ (String.lt_trans h h')
  have hne : key ≠ k := fun heq => String.lt_irrefl _ (heq ▸ h)
  rw [insertEntry, if_neg hnot, if_neg hne]

end Entries

lemma insertEntry_insertEntry_self (key : String) (value value' : α)
    (entries : List (String × α)) :
    insertEntry key value (insertEntry key value' entries) = insertEntry key value entries := by
  induction entries with
  | nil => exact insertEntry_cons_self
  | cons entry rest ih =>
    obtain ⟨k, v⟩ := entry
    rcases Std.lt_trichotomy key k with hlt | rfl | hgt
    · rw [insertEntry_cons_of_lt hlt, insertEntry_cons_of_lt hlt, insertEntry_cons_self]
    · rw [insertEntry_cons_self, insertEntry_cons_self, insertEntry_cons_self]
    · rw [insertEntry_cons_of_gt hgt, insertEntry_cons_of_gt hgt, insertEntry_cons_of_gt hgt, ih]

/-- The smaller of two keys is put in front, wherever the larger one stands. -/
lemma insertEntry_comm_of_lt {key key' : String} (hlt : key < key') (value value' : α)
    (entries : List (String × α)) :
    insertEntry key value (insertEntry key' value' entries) =
      insertEntry key' value' (insertEntry key value entries) := by
  induction entries with
  | nil =>
    have hright : insertEntry key' value' [(key, value)] = [(key, value), (key', value')] :=
      insertEntry_cons_of_gt hlt
    exact (insertEntry_cons_of_lt hlt).trans hright.symm
  | cons entry rest ih =>
    obtain ⟨k, v⟩ := entry
    rcases Std.lt_trichotomy key' k with hk' | rfl | hk'
    · -- where the larger key is put in front of `k`, so is the smaller one
      rw [insertEntry_cons_of_lt hk', insertEntry_cons_of_lt hlt,
        insertEntry_cons_of_lt (String.lt_trans hlt hk'), insertEntry_cons_of_gt hlt,
        insertEntry_cons_of_lt hk']
    · rw [insertEntry_cons_self, insertEntry_cons_of_lt hlt, insertEntry_cons_of_lt hlt,
        insertEntry_cons_of_gt hlt, insertEntry_cons_self]
    · rw [insertEntry_cons_of_gt hk']
      rcases Std.lt_trichotomy key k with hk | rfl | hk
      · rw [insertEntry_cons_of_lt hk, insertEntry_cons_of_lt hk, insertEntry_cons_of_gt hlt,
          insertEntry_cons_of_gt hk']
      · rw [insertEntry_cons_self, insertEntry_cons_self, insertEntry_cons_of_gt hk']
      · rw [insertEntry_cons_of_gt hk, insertEntry_cons_of_gt hk, insertEntry_cons_of_gt hk', ih]

@[simp] lemma insert_insert_self (m : KeyMap α) (key : String) (value value' : α) :
    (m.insert key value').insert key value = m.insert key value := by
  simp only [insert, insertEntry_insertEntry_self]

lemma insert_comm {key key' : String} (hne : key ≠ key') (m : KeyMap α) (value value' : α) :
    (m.insert key' value').insert key value = (m.insert key value).insert key' value' := by
  rcases Std.lt_trichotomy key key' with hlt | heq | hgt
  · simp only [insert, insertEntry_comm_of_lt hlt]
  · exact absurd heq hne
  · simp only [insert, insertEntry_comm_of_lt hgt]

/-! ## Keys and entries -/

lemma mem_of_get?_eq_some {m : KeyMap α} {key : String} {value : α}
    (h : m.get? key = some value) : (key, value) ∈ m.entries :=
  mem_of_lookup_eq_some h

lemma get?_eq_none_of_forall_ne {m : KeyMap α} {key : String}
    (h : ∀ entry ∈ m.entries, entry.1 ≠ key) : m.get? key = none := by
  refine lookup_eq_none_of_not_mem fun hmem => ?_
  obtain ⟨entry, hentry, heq⟩ := List.mem_map.1 hmem
  exact h entry hentry heq

lemma mem_keys_iff {m : KeyMap α} {key : String} : key ∈ m.keys ↔ (m.get? key).isSome := by
  obtain ⟨entries⟩ := m
  simp only [keys, get?]
  induction entries with
  | nil => simp
  | cons entry rest ih =>
    rw [List.map_cons, List.mem_cons, lookup_cons_eq_ite, ih]
    by_cases h : key = entry.1 <;> simp [h]

lemma mem_keys_insert {m : KeyMap α} {key : String} {value : α} {wanted : String} :
    wanted ∈ (m.insert key value).keys ↔ wanted = key ∨ wanted ∈ m.keys := by
  rw [mem_keys_iff, mem_keys_iff, get?_insert]
  by_cases h : wanted = key <;> simp [h]

/-- An entry whose key is above all others is set at the end. -/
lemma insertEntry_of_forall_lt {key : String} {value : α} {entries : List (String × α)}
    (h : ∀ entry ∈ entries, entry.1 < key) :
    insertEntry key value entries = entries ++ [(key, value)] := by
  induction entries with
  | nil => rfl
  | cons entry rest ih =>
    rw [insertEntry_cons_of_gt (h entry List.mem_cons_self), List.cons_append,
      ih fun other hother => h other (List.mem_cons_of_mem _ hother)]

lemma insertEntry_ne_nil (key : String) (value : α) (entries : List (String × α)) :
    insertEntry key value entries ≠ [] := by
  intro h
  have hget := lookup_insertEntry key value entries key
  rw [h] at hget
  simp at hget

/-- Setting a key that is not there adds its entry and changes no other. -/
lemma insertEntry_perm {key : String} {value : α} {entries : List (String × α)}
    (h : ∀ entry ∈ entries, entry.1 ≠ key) :
    (insertEntry key value entries).Perm ((key, value) :: entries) := by
  induction entries with
  | nil => exact List.Perm.refl _
  | cons entry rest ih =>
    have hne : key ≠ entry.1 := Ne.symm (h entry List.mem_cons_self)
    simp only [insertEntry, if_neg hne]
    split
    · exact List.Perm.refl _
    · have hrest := ih fun other hother => h other (List.mem_cons_of_mem _ hother)
      exact (hrest.cons entry).trans (List.Perm.swap _ _ _)

/-! ## Maps from lists of entries -/

/-- Sets the given entries one after the other. -/
def insertAll (m : KeyMap α) (entries : List (String × α)) : KeyMap α :=
  entries.foldl (fun m entry => m.insert entry.1 entry.2) m

lemma ofList_eq_insertAll (entries : List (String × α)) :
    ofList entries = empty.insertAll entries := rfl

lemma mem_insertAll {m : KeyMap α} {entries : List (String × α)} {entry : String × α}
    (h : entry ∈ (m.insertAll entries).entries) : entry ∈ entries ∨ entry ∈ m.entries := by
  induction entries generalizing m with
  | nil => exact .inr h
  | cons first rest ih =>
    rcases ih h with hrest | hm
    · exact .inl (List.mem_cons_of_mem _ hrest)
    · rcases mem_insertEntry hm with rfl | hm
      · exact .inl List.mem_cons_self
      · exact .inr hm

lemma mem_keys_insertAll {m : KeyMap α} {entries : List (String × α)} {key : String} :
    key ∈ (m.insertAll entries).keys ↔ key ∈ entries.map Prod.fst ∨ key ∈ m.keys := by
  induction entries generalizing m with
  | nil => simp [insertAll]
  | cons entry rest ih =>
    have hrest := ih (m := m.insert entry.1 entry.2)
    rw [mem_keys_insert] at hrest
    rw [List.map_cons, List.mem_cons]
    refine hrest.trans ⟨?_, ?_⟩
    · rintro (h | h | h)
      exacts [.inl (.inr h), .inl (.inl h), .inr h]
    · rintro ((h | h) | h)
      exacts [.inr (.inl h), .inl h, .inr (.inr h)]

/-- Of the entries with one key the last one counts. -/
lemma get?_insertAll (m : KeyMap α) (entries : List (String × α)) (key : String) :
    (m.insertAll entries).get? key =
      (((entries.filter fun entry => entry.1 = key).getLast?).map Prod.snd).or (m.get? key) := by
  induction entries using List.reverseRecOn with
  | nil => rfl
  | append_singleton entries entry ih =>
    rw [insertAll, List.foldl_append, List.filter_append]
    change ((m.insertAll entries).insert entry.1 entry.2).get? key = _
    rw [get?_insert, ih]
    by_cases hkey : entry.1 = key
    · simp [hkey]
    · simp [hkey, Ne.symm hkey]

/-- When no key is set twice, all the entries are there in the end. -/
lemma insertAll_perm {m : KeyMap α} {entries : List (String × α)}
    (hnodup : (entries.map Prod.fst).Nodup)
    (hnew : ∀ entry ∈ m.entries, entry.1 ∉ entries.map Prod.fst) :
    (m.insertAll entries).entries.Perm (entries ++ m.entries) := by
  induction entries generalizing m with
  | nil => exact List.Perm.refl _
  | cons first rest ih =>
    rw [List.map_cons, List.nodup_cons] at hnodup
    have hfirst : (m.insert first.1 first.2).entries.Perm (first :: m.entries) := by
      refine insertEntry_perm fun entry hentry heq => hnew entry hentry ?_
      rw [heq]
      exact List.mem_cons_self
    have hrest := ih (m := m.insert first.1 first.2) hnodup.2 (by
      intro entry hentry hmem
      rcases mem_insertEntry hentry with rfl | hold
      · exact hnodup.1 hmem
      · exact hnew entry hold (List.mem_cons_of_mem _ hmem))
    exact hrest.trans ((hfirst.append_left rest).trans List.perm_middle)

lemma ofList_perm {entries : List (String × α)} (hnodup : (entries.map Prod.fst).Nodup) :
    (ofList entries).entries.Perm entries := by
  have h := insertAll_perm (m := empty) hnodup (by simp [empty])
  simpa [ofList_eq_insertAll, empty] using h

/-- The order in which entries with different keys are set does not matter. -/
lemma ofList_eq_of_perm {entries entries' : List (String × α)}
    (hnodup : (entries.map Prod.fst).Nodup) (h : entries.Perm entries') :
    ofList entries = ofList entries' := by
  refine h.foldl_eq' (fun entry hentry entry' hentry' m => ?_) empty
  by_cases heq : entry = entry'
  · rw [heq]
  · have hne : entry'.1 ≠ entry.1 := fun hkey =>
      heq (List.inj_on_of_nodup_map hnodup hentry hentry' hkey.symm)
    exact insert_comm hne m _ _

lemma Sorted.nodup_keys {m : KeyMap α} (h : m.Sorted) : m.keys.Nodup := by
  rw [keys, List.nodup_iff_pairwise_ne, List.pairwise_map]
  refine List.Pairwise.imp (fun {a b} hlt heq => ?_) h
  exact String.lt_irrefl _ (heq ▸ hlt)

lemma sorted_insertAll {m : KeyMap α} (h : m.Sorted) (entries : List (String × α)) :
    (m.insertAll entries).Sorted := by
  induction entries generalizing m with
  | nil => exact h
  | cons entry rest ih => exact ih (h.insert entry.1 entry.2)

/-- A map that is built from entries, whatever their keys, has every key once. -/
lemma sorted_ofList (entries : List (String × α)) : (ofList entries).Sorted :=
  sorted_insertAll sorted_empty entries

/-- Maps with the same entries are equal. -/
lemma Sorted.eq_of_forall_mem {m m' : KeyMap α} (h : m.Sorted) (h' : m'.Sorted)
    (hmem : ∀ entry, entry ∈ m.entries ↔ entry ∈ m'.entries) : m = m' := by
  have hperm : m.entries.Perm m'.entries :=
    (List.perm_ext_iff_of_nodup h.nodup_keys.of_map h'.nodup_keys.of_map).2 hmem
  have hentries : m.entries = m'.entries := by
    refine List.Perm.eq_of_pairwise (fun a b _ _ hlt hlt' => ?_) h h' hperm
    exact absurd (String.lt_trans hlt hlt') (String.lt_irrefl _)
  exact congrArg mk hentries

/-! ## Leaving keys out -/

lemma lookup_filter_key (p : String → Bool) (entries : List (String × α)) (key : String) :
    (entries.filter fun entry => p entry.1).lookup key =
      if p key then entries.lookup key else none := by
  induction entries with
  | nil => simp
  | cons entry rest ih =>
    obtain ⟨k, v⟩ := entry
    rw [List.filter_cons, lookup_cons_eq_ite]
    by_cases hkey : key = k
    · subst hkey
      by_cases hp : p key <;> simp [hp, ih]
    · by_cases hp : p k <;> simp [hp, hkey, ih, lookup_cons_eq_ite]

lemma get?_erase (m : KeyMap α) (key wanted : String) :
    (m.erase key).get? wanted = if wanted = key then none else m.get? wanted := by
  refine (lookup_filter_key (fun k => decide (k ≠ key)) m.entries wanted).trans ?_
  by_cases h : wanted = key <;> simp [h, get?]

/-- The map without the entries at the given keys. -/
def without (m : KeyMap α) (keys : List String) : KeyMap α :=
  ⟨m.entries.filter fun entry => entry.1 ∉ keys⟩

@[simp] lemma without_nil (m : KeyMap α) : m.without [] = m := by
  simp [without]

lemma get?_without (m : KeyMap α) (keys : List String) (wanted : String) :
    (m.without keys).get? wanted = if wanted ∈ keys then none else m.get? wanted := by
  refine (lookup_filter_key (fun k => decide (k ∉ keys)) m.entries wanted).trans ?_
  by_cases h : wanted ∈ keys <;> simp [h, get?]

lemma mem_without {m : KeyMap α} {keys : List String} {entry : String × α} :
    entry ∈ (m.without keys).entries ↔ entry ∈ m.entries ∧ entry.1 ∉ keys := by
  simp [without]

lemma Sorted.without {m : KeyMap α} (h : m.Sorted) (keys : List String) :
    (m.without keys).Sorted :=
  List.Pairwise.filter _ h

lemma without_eq_self_iff {m : KeyMap α} {keys : List String} :
    m.without keys = m ↔ ∀ key ∈ m.keys, key ∉ keys := by
  obtain ⟨entries⟩ := m
  simp [KeyMap.without, KeyMap.keys, List.filter_eq_self]

lemma erase_without (m : KeyMap α) (key : String) (keys : List String) :
    (m.without keys).erase key = m.without (key :: keys) := by
  simp [without, erase, List.filter_filter]

/-! ## Dropping and replacing values -/

/-- The map that keeps what a function makes of the values, and drops the keys of the values
that it makes nothing of. -/
def filterMapValues (f : α → Option β) (m : KeyMap α) : KeyMap β :=
  ⟨m.entries.filterMap fun entry => (f entry.2).map (entry.1, ·)⟩

lemma mapValues_filterMapValues (f : β → γ) (g : α → Option β) (m : KeyMap α) :
    (m.filterMapValues g).mapValues f = m.filterMapValues fun value => (g value).map f := by
  simp only [mapValues, filterMapValues, List.map_filterMap, Option.map_map, Function.comp_def]

lemma mapValues_filterValues (f : α → β) (p : α → Bool) (m : KeyMap α) :
    (m.filterValues p).mapValues f =
      m.filterMapValues fun value => if p value then some (f value) else none := by
  obtain ⟨entries⟩ := m
  simp only [mapValues, filterValues, filterMapValues, mk.injEq]
  induction entries with
  | nil => rfl
  | cons entry rest ih => by_cases h : p entry.2 <;> simp [h, ih]

lemma filterMapValues_congr {f g : α → Option β} {m : KeyMap α}
    (h : ∀ entry ∈ m.entries, f entry.2 = g entry.2) :
    m.filterMapValues f = m.filterMapValues g := by
  rw [filterMapValues, filterMapValues, List.filterMap_congr fun entry hentry => ?_]
  rw [h entry hentry]

lemma get?_filterMapValues (f : α → Option β) {m : KeyMap α} (h : m.keys.Nodup) (key : String) :
    (m.filterMapValues f).get? key = (m.get? key).bind f := by
  obtain ⟨entries⟩ := m
  induction entries with
  | nil => rfl
  | cons entry rest ih =>
    obtain ⟨k, v⟩ := entry
    obtain ⟨hnot, hnodup⟩ := List.nodup_cons.1 h
    have hrest := ih hnodup
    simp only [filterMapValues, get?, List.filterMap_cons, lookup_cons_eq_ite] at hrest ⊢
    by_cases hkey : key = k
    · -- the key does not come again, so nothing is found behind a dropped value
      subst hkey
      rw [lookup_eq_none_of_not_mem hnot] at hrest
      cases hf : f v <;> simp [hrest, hf]
    · cases hf : f v <;> simp [lookup_cons_eq_ite, hkey, hrest]

@[simp] lemma filterMapValues_some (m : KeyMap α) : m.filterMapValues some = m := by
  simp [filterMapValues]

end KeyMap
end SearchGateway
