import SearchGateway.Error
import SearchGateway.Json.Compact

/-!
# Batches

An engine limits the size of an upload.  Documents that are too large together are cut into
groups of equal length, so many as it would take if all documents were of one size, and a
group that is still too large is cut again.  A single document is never cut: it is
refused when it is larger than the limit, and otherwise sent alone.

The cutting ends because a group that is cut again is shorter than what it was cut from.
This is so because a document has at least one byte: where none is refused the limit is not
zero, and documents over a limit are cut into two groups at least.

Room is made for the groups before there are any, for as many as the limit goes into the size,
although there are never more groups than items.  For a size that a caller makes up this can be
more room than there may be, and then cutting ends the program (`partition`).  Documents that are
split have the size of their own text, which takes at most two groups for each document and one
more, so that splitting only speaks of the groups.  That memory is short is not considered.
-/
namespace SearchGateway

/-- Division that rounds up. -/
def ceilDiv (n d : Nat) : Nat := (n + d - 1) / d

theorem two_le_ceilDiv {n d : Nat} (hd : 0 < d) (h : d < n) : 2 ≤ ceilDiv n d :=
  (Nat.le_div_iff_mul_le hd).2 (by omega)

/-- Rounding up, a share among two or more is less than the whole, unless the whole is one. -/
theorem ceilDiv_lt_self {n d : Nat} (hd : 2 ≤ d) (hn : 2 ≤ n) : ceilDiv n d < n := by
  refine (Nat.div_lt_iff_lt_mul (by omega)).2 ?_
  have h : n * 2 ≤ n * d := Nat.mul_le_mul_left n hd
  have h' : 2 * d ≤ n * d := Nat.mul_le_mul_right d hn
  omega

/-- Runs of `more + 1` items each; the last run may be shorter. -/
def runs {α : Type u} (more : Nat) : List α → List (List α)
  | [] => []
  | item :: rest => (item :: rest.take more) :: runs more (rest.drop more)
termination_by items => items.length
decreasing_by simp only [List.length_drop, List.length_cons]; omega

theorem length_le_of_mem_runs {α : Type u} {more : Nat} {items run : List α}
    (h : run ∈ runs more items) : run.length ≤ more + 1 := by
  fun_induction runs more items with
  | case1 => exact absurd h List.not_mem_nil
  | case2 item rest ih =>
    rcases List.mem_cons.1 h with rfl | h
    · rw [List.length_cons, List.length_take]
      omega
    · exact ih h

/-- Items of a total size in groups of equal length, as many as the limit makes necessary; no
limit and a size within the limit leave one group. -/
def groupsOf {α : Type u} (items : List α) (size max : Nat) : List (List α) :=
  if items.isEmpty then []
  else if max = 0 ∨ size ≤ max then [items]
  else runs (ceilDiv items.length (ceilDiv size max) - 1) items

theorem groupsOf_of_lt {α : Type u} {items : List α} {size max : Nat} (hitems : items ≠ [])
    (hmax : 0 < max) (hsize : max < size) :
    groupsOf items size max = runs (ceilDiv items.length (ceilDiv size max) - 1) items := by
  have hcut : ¬ (max = 0 ∨ size ≤ max) := by omega
  rw [groupsOf, if_neg (by simpa using hitems), if_neg hcut]

/-- Where items over the limit are cut, a group is shorter than they are unless it is a single
item. -/
theorem length_lt_of_mem_groupsOf {α : Type u} {items group : List α} {size max : Nat}
    (hmax : 0 < max) (hsize : max < size) (hgroup : group ∈ groupsOf items size max)
    (hone : group.length ≠ 1) : group.length < items.length := by
  have hitems : items ≠ [] := by
    rintro rfl
    exact absurd hgroup List.not_mem_nil
  have hpos : 0 < items.length := List.length_pos_iff.2 hitems
  rw [groupsOf_of_lt hitems hmax hsize] at hgroup
  have hle := length_le_of_mem_runs hgroup
  have htwo := two_le_ceilDiv hmax hsize
  by_cases hlength : 2 ≤ items.length
  · have hlt := ceilDiv_lt_self htwo hlength
    omega
  · -- a single item is in a group of its own
    have hshare : ceilDiv items.length (ceilDiv size max) < 2 :=
      (Nat.div_lt_iff_lt_mul (by omega)).2 (by omega)
    omega

/-- What ends the program instead of giving a result. -/
inductive Abort where
  /-- More room was asked for than there can be. -/
  | capacityOverflow
deriving DecidableEq, Repr, Inhabited

/-- The text with which the program ends. -/
def Abort.message : Abort → String
  | .capacityOverflow => "capacity overflow"

/-- The most groups for which there can be room: a group takes 24 bytes of it, and there are less
than two to the power of 63 bytes. -/
def maxGroups : Nat := 0x7fffffffffffffff / 24

/-- Makes room for some groups. -/
def reserve (groups : Nat) : Except Abort Unit :=
  if groups ≤ maxGroups then .ok () else .error .capacityOverflow

/-- Cuts items of a total size into groups of equal length.  Room is made for as many groups as
the limit makes necessary, even if the items do not suffice for so many. -/
def partition {α : Type u} (items : List α) (size max : Nat) : Except Abort (List (List α)) :=
  if items.isEmpty ∨ max = 0 ∨ size ≤ max then .ok (groupsOf items size max)
  else (reserve (ceilDiv size max)).map fun _ => groupsOf items size max

/-- Documents in batches, and into how many groups they were cut at each cut. -/
structure Batches where
  batches : List (List Json)
  cuts : List Nat
deriving Inhabited

namespace Batches

/-- No documents at all. -/
def empty : Batches := ⟨[], []⟩

/-- Documents that are sent in one batch. -/
def one (documents : List Json) : Batches := ⟨[documents], []⟩

/-- Batches one after the other. -/
def append (a b : Batches) : Batches := ⟨a.batches ++ b.batches, a.cuts ++ b.cuts⟩

/-- Batches of several groups one after the other. -/
def concat (groups : List Batches) : Batches := groups.foldr append empty

/-- The first document that is larger than the limit. -/
def oversized? (max : Nat) (documents : List Json) : Option Json :=
  documents.find? fun document => max < document.encodedSize

theorem encodedSize_le_of_oversized?_eq_none {max : Nat} {documents : List Json}
    (h : oversized? max documents = none) {document : Json} (hmem : document ∈ documents) :
    document.encodedSize ≤ max := by
  have hnot := List.find?_eq_none.1 h document hmem
  exact Nat.le_of_not_lt (by simpa using hnot)

/-- Where no document is refused the limit is not zero. -/
theorem pos_of_oversized?_eq_none {max : Nat} {documents : List Json} (hne : documents ≠ [])
    (h : oversized? max documents = none) : 0 < max := by
  obtain ⟨document, hmem⟩ := List.exists_mem_of_ne_nil documents hne
  exact Nat.lt_of_lt_of_le document.encodedSize_pos
    (encodedSize_le_of_oversized?_eq_none h hmem)

/-- The batches in which documents are sent.  Where the documents are over the limit, one that
is over it alone is an error, and of several the first counts; otherwise they are cut into
groups, and a group of several documents that is still over the limit is cut again. -/
def split (max : Nat) (documents : List Json) : Except SearchError Batches :=
  if _hempty : documents = [] then .ok empty
  else if _hsize : (Json.arr documents).encodedSize ≤ max then .ok (one documents)
  else
    match _hrefused : oversized? max documents with
    | some document => .error (.payloadTooLarge document.encodedSize max)
    | none => do
      let groups := groupsOf documents (Json.arr documents).encodedSize max
      let parts ← groups.attach.mapM fun ⟨group, _hgroup⟩ =>
        if _hone : group.length = 1 then pure (one group)
        else if (Json.arr group).encodedSize ≤ max then pure (one group)
        else split max group
      return ⟨(concat parts).batches, groups.length :: (concat parts).cuts⟩
termination_by documents.length
decreasing_by
  exact length_lt_of_mem_groupsOf (pos_of_oversized?_eq_none _hempty _hrefused)
    (Nat.lt_of_not_le _hsize) _hgroup _hone

end Batches
end SearchGateway
