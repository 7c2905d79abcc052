import Mathlib.Algebra.GroupWithZero.Nat
import Mathlib.Algebra.Order.BigOperators.Group.List
import Mathlib.Algebra.Order.Group.Nat
import Mathlib.Tactic.Lemma
import SearchGateway.Publishing.Batch

/-!
# Documents in batches

Splitting documents loses none, keeps their order and ends.  The size of an array is known
exactly (`encodedSize_arr`), so that documents which fit together fit alone, and a document
that fits alone takes two bytes more in a batch of its own.

What is cut follows the recursion of `split`: under the condition that no document is refused,
every group that is cut again has the same property, so that an error can only come from the
first call (`exists_holds`).  The main statement is `split_refuses_or_keeps`.
-/
namespace SearchGateway

/-! ## The size of an array -/

namespace Json

lemma compactItems_eq_map (items : List Json) : compactItems items = items.map compact := by
  induction items with
  | nil => rfl
  | cons item rest ih => rw [compactItems, ih, List.map_cons]

lemma utf8ByteSize_intercalate_cons (separator first : String) (rest : List String) :
    (separator.intercalate (first :: rest)).utf8ByteSize =
      ((first :: rest).map String.utf8ByteSize).sum + rest.length * separator.utf8ByteSize := by
  induction rest generalizing first with
  | nil => simp
  | cons second rest ih =>
    rw [String.intercalate_cons_cons, String.utf8ByteSize_append, String.utf8ByteSize_append, ih]
    simp only [List.map_cons, List.sum_cons, List.length_cons, Nat.add_one_mul]
    omega

/-- An array takes its brackets, its items and a comma between two of them. -/
theorem encodedSize_arr (items : List Json) :
    (Json.arr items).encodedSize =
      (items.map encodedSize).sum + (items.length - 1) + 2 := by
  have hbrackets : (Json.arr items).encodedSize =
      (",".intercalate (items.map compact)).utf8ByteSize + 2 := by
    have hopen : "[".utf8ByteSize = 1 := by decide
    have hclose : "]".utf8ByteSize = 1 := by decide
    rw [encodedSize, compact, String.utf8ByteSize_append, String.utf8ByteSize_append,
      compactItems_eq_map, hopen, hclose]
    omega
  have hcomma : ",".utf8ByteSize = 1 := by decide
  rw [hbrackets]
  cases items with
  | nil => simp
  | cons first rest =>
    rw [List.map_cons, utf8ByteSize_intercalate_cons, hcomma, ← List.map_cons, List.map_map,
      List.length_map, List.length_cons, Nat.mul_one, Nat.add_one_sub_one]
    rfl

lemma encodedSize_arr_singleton (item : Json) :
    (Json.arr [item]).encodedSize = item.encodedSize + 2 := by
  simp [encodedSize_arr]

/-- What fits together fits alone. -/
lemma encodedSize_le_of_mem {item : Json} {items : List Json} (h : item ∈ items) :
    item.encodedSize ≤ (Json.arr items).encodedSize := by
  have hsum : item.encodedSize ≤ (items.map encodedSize).sum :=
    List.le_sum_of_mem (List.mem_map_of_mem h)
  rw [encodedSize_arr]
  omega

end Json

/-! ## Groups -/

section Groups

variable {α : Type*}

lemma flatten_runs (more : Nat) (items : List α) : (runs more items).flatten = items := by
  fun_induction runs more items with
  | case1 => rfl
  | case2 item rest ih =>
    rw [List.flatten_cons, ih, List.cons_append, List.take_append_drop]

lemma ne_nil_of_mem_runs {more : Nat} {items run : List α} (h : run ∈ runs more items) :
    run ≠ [] := by
  fun_induction runs more items with
  | case1 => exact absurd h List.not_mem_nil
  | case2 item rest ih =>
    rcases List.mem_cons.1 h with rfl | h
    · exact List.cons_ne_nil _ _
    · exact ih h

lemma flatten_groupsOf (items : List α) (size max : Nat) :
    (groupsOf items size max).flatten = items := by
  rw [groupsOf]
  split
  next h => simpa using h
  next =>
    split
    · simp
    · exact flatten_runs _ _

lemma ne_nil_of_mem_groupsOf {items group : List α} {size max : Nat}
    (h : group ∈ groupsOf items size max) : group ≠ [] := by
  rw [groupsOf] at h
  split at h
  next => exact absurd h List.not_mem_nil
  next hitems =>
    split at h
    · obtain rfl := List.mem_singleton.1 h
      simpa using hitems
    · exact ne_nil_of_mem_runs h

lemma groupsOf_singleton (item : α) (size max : Nat) : groupsOf [item] size max = [[item]] := by
  rw [groupsOf, if_neg (by simp)]
  split
  · rfl
  · simp [runs]

end Groups

namespace Batches

variable {max : Nat} {documents : List Json}

/-! ## The equations of `split` -/

lemma oversized?_eq_none_iff :
    oversized? max documents = none ↔ ∀ document ∈ documents, document.encodedSize ≤ max := by
  simp [oversized?, List.find?_eq_none]

/-- What becomes of a group of documents that are over the limit together. -/
def settle (max : Nat) (group : List Json) : Except SearchError Batches :=
  if group.length = 1 then .ok (one group)
  else if (Json.arr group).encodedSize ≤ max then .ok (one group)
  else split max group

lemma split_nil (max : Nat) : split max [] = .ok empty := by
  rw [split, dif_pos rfl]

lemma split_of_le (hne : documents ≠ []) (hle : (Json.arr documents).encodedSize ≤ max) :
    split max documents = .ok (one documents) := by
  rw [split, dif_neg hne, dif_pos hle]

lemma split_of_oversized {document : Json} (h : oversized? max documents = some document) :
    split max documents = .error (.payloadTooLarge document.encodedSize max) := by
  have hmem : document ∈ documents := List.mem_of_find?_eq_some h
  have hlarge : max < document.encodedSize := by simpa using List.find?_some h
  -- the whole list is looked at first, but a list with such a document does not fit either
  have hnot : ¬ (Json.arr documents).encodedSize ≤ max :=
    Nat.not_le_of_lt (Nat.lt_of_lt_of_le hlarge (Json.encodedSize_le_of_mem hmem))
  rw [split, dif_neg (List.ne_nil_of_mem hmem), dif_neg hnot]
  split
  next other hother => rw [Option.some.inj (hother.symm.trans h)]
  next hnone => exact absurd (hnone.symm.trans h) (by simp)

lemma split_of_cut (hne : documents ≠ []) (hlt : max < (Json.arr documents).encodedSize)
    (hfit : oversized? max documents = none) :
    split max documents =
      ((groupsOf documents (Json.arr documents).encodedSize max).mapM (settle max)).map
        fun parts => ⟨(concat parts).batches,
          (groupsOf documents (Json.arr documents).encodedSize max).length ::
            (concat parts).cuts⟩ := by
  rw [split, dif_neg hne, dif_neg (Nat.not_le_of_lt hlt)]
  split
  next other hother => exact absurd (hother.symm.trans hfit) (by simp)
  next =>
    dsimp only
    rw [List.mapM_subtype (g := settle max) (fun _ _ => rfl), List.unattach_attach]
    rfl

/-! ## Nothing is lost -/

/-- A batch that may be sent: of several documents only within the limit. -/
structure Sendable (max : Nat) (batch : List Json) : Prop where
  ne_nil : batch ≠ []
  encodedSize_le : batch.length ≠ 1 → (Json.arr batch).encodedSize ≤ max

/-- Batches that hold certain documents in their order. -/
structure Holds (max : Nat) (documents : List Json) (b : Batches) : Prop where
  flatten_eq : b.batches.flatten = documents
  sendable : ∀ batch ∈ b.batches, Sendable max batch

lemma Holds.batches_ne_nil {b : Batches} (h : Holds max documents b) (hne : documents ≠ []) :
    b.batches ≠ [] := by
  intro hnil
  rw [← h.flatten_eq, hnil] at hne
  exact hne rfl

lemma holds_empty (max : Nat) : Holds max [] empty := ⟨rfl, fun _ h => absurd h List.not_mem_nil⟩

lemma holds_one {batch : List Json} (h : Sendable max batch) : Holds max batch (one batch) :=
  ⟨List.flatten_singleton, fun _ hmem => List.mem_singleton.1 hmem ▸ h⟩

lemma Holds.concat {groups : List (List Json)} {parts : List Batches}
    (h : List.Forall₂ (Holds max) groups parts) : Holds max groups.flatten (concat parts) := by
  induction h with
  | nil => exact holds_empty max
  | @cons group part groups parts hpart _ ih =>
    constructor
    · rw [List.flatten_cons, ← hpart.flatten_eq, ← ih.flatten_eq]
      exact List.flatten_append
    · intro batch hmem
      rcases List.mem_append.1 hmem with hmem | hmem
      · exact hpart.sendable batch hmem
      · exact ih.sendable batch hmem

/-- Where every item gives a result, all of them together do. -/
lemma exists_mapM_eq_ok {ε α β : Type} {f : α → Except ε β} {R : α → β → Prop} {items : List α}
    (h : ∀ item ∈ items, ∃ result, f item = .ok result ∧ R item result) :
    ∃ results, items.mapM f = .ok results ∧ List.Forall₂ R items results := by
  induction items with
  | nil => exact ⟨[], rfl, .nil⟩
  | cons item rest ih =>
    obtain ⟨result, hresult, hR⟩ := h item List.mem_cons_self
    obtain ⟨results, hresults, hRs⟩ := ih fun other hmem => h other (List.mem_cons_of_mem _ hmem)
    refine ⟨result :: results, ?_, .cons hR hRs⟩
    rw [List.mapM_cons, hresult, hresults]
    rfl

/-- A group is settled if it can be split where it has to be. -/
lemma exists_settle {group : List Json} (hne : group ≠ [])
    (hsplit : group.length ≠ 1 → ∃ b, split max group = .ok b ∧ Holds max group b) :
    ∃ b, settle max group = .ok b ∧ Holds max group b := by
  rw [settle]
  split
  next hone => exact ⟨one group, rfl, holds_one ⟨hne, fun h => absurd hone h⟩⟩
  next hone =>
    split
    next hle => exact ⟨one group, rfl, holds_one ⟨hne, fun _ => hle⟩⟩
    next => exact hsplit hone

/-- Documents none of which is refused are split.  No group of theirs has a refused document, so
the cutting below them does not fail either. -/
theorem exists_holds (hfit : ∀ document ∈ documents, document.encodedSize ≤ max) :
    ∃ b, split max documents = .ok b ∧ Holds max documents b := by
  induction documents using split.induct max with
  | case1 => exact ⟨empty, split_nil max, holds_empty max⟩
  | case2 documents hne hle =>
    exact ⟨one documents, split_of_le hne hle, holds_one ⟨hne, fun _ => hle⟩⟩
  | case3 documents _ _ document hlarge =>
    rw [oversized?_eq_none_iff.2 hfit] at hlarge
    exact nomatch hlarge
  | case4 documents hne hlt hnone groups ih =>
    -- the documents of a group are among the documents, so that the group is not refused
    have hgroups : groups.flatten = documents := flatten_groupsOf _ _ _
    have hsettle : ∀ group ∈ groups, ∃ b, settle max group = .ok b ∧ Holds max group b := by
      intro group hgroup
      refine exists_settle (ne_nil_of_mem_groupsOf hgroup) fun hone => ?_
      refine ih group hgroup hone fun document hmem => hfit document ?_
      rw [← hgroups]
      exact List.mem_flatten_of_mem hgroup hmem
    obtain ⟨parts, hparts, hholds⟩ := exists_mapM_eq_ok hsettle
    have hall := Holds.concat hholds
    rw [hgroups] at hall
    refine ⟨⟨(concat parts).batches, groups.length :: (concat parts).cuts⟩, ?_,
      ⟨hall.flatten_eq, hall.sendable⟩⟩
    rw [split_of_cut hne (Nat.lt_of_not_le hlt) hnone, hparts]
    rfl

lemma holds_of_split {b : Batches} (h : split max documents = .ok b) : Holds max documents b := by
  have hfit : oversized? max documents = none := by
    by_contra hlarge
    obtain ⟨document, hdocument⟩ := Option.ne_none_iff_exists'.1 hlarge
    exact nomatch h.symm.trans (split_of_oversized hdocument)
  obtain ⟨b', hb', hholds⟩ := exists_holds (oversized?_eq_none_iff.1 hfit)
  exact Except.ok.inj (h.symm.trans hb') ▸ hholds

/-- A batch that may be sent is not cut. -/
lemma exists_split_of_sendable {batch : List Json} (h : Sendable max batch)
    (hfit : ∀ document ∈ batch, document.encodedSize ≤ max) :
    ∃ b, split max batch = .ok b ∧ b.batches = [batch] := by
  by_cases hle : (Json.arr batch).encodedSize ≤ max
  · exact ⟨one batch, split_of_le h.ne_nil hle, rfl⟩
  · -- a batch that is over the limit and may be sent has one document, which no cut divides
    have hone : batch.length = 1 := by
      by_contra hseveral
      exact hle (h.encodedSize_le hseveral)
    obtain ⟨document, rfl⟩ := List.length_eq_one_iff.1 hone
    refine ⟨⟨[[document]], [1]⟩, ?_, rfl⟩
    rw [split_of_cut h.ne_nil (Nat.lt_of_not_le hle) (oversized?_eq_none_iff.2 hfit),
      groupsOf_singleton]
    rfl

/-- Documents are refused exactly for the first among them that is over the limit. -/
lemma split_eq_payloadTooLarge_iff {size limit : Nat} :
    split max documents = .error (.payloadTooLarge size limit) ↔
      limit = max ∧ ∃ before document after, documents = before ++ document :: after ∧
        (∀ earlier ∈ before, earlier.encodedSize ≤ max) ∧ max < document.encodedSize ∧
        size = document.encodedSize := by
  constructor
  · intro h
    cases hlarge : oversized? max documents with
    | none =>
      obtain ⟨b, hb, -⟩ := exists_holds (oversized?_eq_none_iff.1 hlarge)
      exact nomatch h.symm.trans hb
    | some document =>
      rw [split_of_oversized hlarge] at h
      obtain ⟨rfl, rfl⟩ := SearchError.payloadTooLarge.inj (Except.error.inj h)
      obtain ⟨hover, before, after, rfl, hbefore⟩ := List.find?_eq_some_iff_append.1 hlarge
      refine ⟨rfl, before, document, after, rfl, fun earlier hmem => ?_, by simpa using hover, rfl⟩
      exact Nat.le_of_not_lt (by simpa using hbefore earlier hmem)
  · rintro ⟨rfl, before, document, after, rfl, hbefore, hover, rfl⟩
    refine split_of_oversized (List.find?_eq_some_iff_append.2 ⟨by simpa using hover, before,
      after, rfl, fun earlier hmem => ?_⟩)
    simpa using hbefore earlier hmem

/-! ## The main statement -/

/-- A group that is cut again when some documents are split: the documents are over the limit
but none of them alone is, and the group, one of those into which they are cut, holds several
documents and is over the limit as well. -/
structure CutAgain (max : Nat) (documents group : List Json) : Prop where
  lt_encodedSize : max < (Json.arr documents).encodedSize
  fit : ∀ document ∈ documents, document.encodedSize ≤ max
  mem_groupsOf : group ∈ groupsOf documents (Json.arr documents).encodedSize max
  length_ne_one : group.length ≠ 1
  lt_encodedSize_group : max < (Json.arr group).encodedSize

lemma CutAgain.length_lt {group : List Json} (h : CutAgain max documents group) :
    group.length < documents.length := by
  have hne : documents ≠ [] := by
    rintro rfl
    exact absurd h.mem_groupsOf List.not_mem_nil
  have hpos := pos_of_oversized?_eq_none hne (oversized?_eq_none_iff.2 h.fit)
  exact length_lt_of_mem_groupsOf hpos h.lt_encodedSize h.mem_groupsOf h.length_ne_one

/-- Splitting documents.  It fails exactly when some document alone is over the limit, with the
size of the first such document.  Otherwise the batches hold the documents in their order,
none of them is empty, several documents are within the limit together, a single one needs
two bytes more at most, and every batch stays as it is when it is split again.  What is cut
again is shorter than what it was cut from. -/
theorem split_refuses_or_keeps (max : Nat) (documents : List Json) :
    (∀ size limit, split max documents = .error (.payloadTooLarge size limit) ↔
      limit = max ∧ ∃ before document after, documents = before ++ document :: after ∧
        (∀ earlier ∈ before, earlier.encodedSize ≤ max) ∧ max < document.encodedSize ∧
        size = document.encodedSize) ∧
    ((∀ document ∈ documents, document.encodedSize ≤ max) →
      ∃ b, split max documents = .ok b ∧ b.batches.flatten = documents ∧
        ∀ batch ∈ b.batches, batch ≠ [] ∧
          (2 ≤ batch.length → (Json.arr batch).encodedSize ≤ max) ∧
          (batch.length = 1 → (Json.arr batch).encodedSize ≤ max + 2) ∧
          ∃ again, split max batch = .ok again ∧ again.batches = [batch]) ∧
    (∀ group, CutAgain max documents group → group.length < documents.length) := by
  refine ⟨fun _ _ => split_eq_payloadTooLarge_iff, fun hfit => ?_, fun _ h => h.length_lt⟩
  obtain ⟨b, hb, hholds⟩ := exists_holds hfit
  refine ⟨b, hb, hholds.flatten_eq, fun batch hmem => ?_⟩
  have hbatch := hholds.sendable batch hmem
  have hfits : ∀ document ∈ batch, document.encodedSize ≤ max := fun document hdocument =>
    hfit document (hholds.flatten_eq ▸ List.mem_flatten_of_mem hmem hdocument)
  refine ⟨hbatch.ne_nil, fun htwo => hbatch.encodedSize_le (by omega), fun hone => ?_,
    exists_split_of_sendable hbatch hfits⟩
  obtain ⟨document, rfl⟩ := List.length_eq_one_iff.1 hone
  rw [Json.encodedSize_arr_singleton]
  exact Nat.add_le_add_right (hfits document List.mem_cons_self) 2

end Batches
end SearchGateway
