import Mathlib.Data.List.Perm.Subperm
import Mathlib.Logic.Relation
import Mathlib.Tactic.Lemma
import SearchGateway.Content.Extraction
import SearchGateway.Proofs.Tables

/-!
# Walks over objects

The objects of an application refer to each other, in any way and also in circles.  The walk of
this file goes through them depth first: it takes the object that is to be entered next, marks it
as begun, and goes on with the objects that the structured fields of this object show, in the order
of the fields, before it comes back to those that were waiting.  It only enters an object whose
identity was not begun before, and it is stuck at any other.

No identity is begun twice, so the walk is over after as many steps as there are objects
(`Walk.Sound.length_begun_le`), and since it never has a choice, there is one place only where it
can be stuck (`Walk.eq_of_reaches`).
-/
namespace SearchGateway

/-! ## What an object shows -/

/-- What a field shows of an object. -/
inductive Shown where
  /-- The field is left out. -/
  | nothing
  | value (value : FieldValue)
  /-- The document that the gateway makes of another object. -/
  | portrait (object : SourceObject)

/-- The object of which a document is to be made. -/
def Shown.object? : Shown → Option SourceObject
  | .portrait object => some object
  | _ => none

lemma Shown.eq_portrait_of_object? {shown : Shown} {object : SourceObject}
    (h : shown.object? = some object) : shown = .portrait object := by
  cases shown with
  | portrait found => exact congrArg _ (Option.some.inj h)
  | nothing => cases h
  | value _ => cases h

namespace Corpus

/-- What a reference in a structured field shows on an index.  Where there is no document, this is
null. -/
def shownThrough (c : Corpus) (index reference : String) : Shown :=
  match c.objects.get? reference with
  | none => .value .null
  | some object =>
    match object.source with
    | .extracted => .portrait object
    | .own answer =>
      match answer index with
      | .ok (some document) => .value (.nested document)
      | _ => .value .null

/-- What a field shows of an object on an index.  Where there is no value, this is null; a
structured field leaves out all other values, and every other field leaves out objects. -/
def shown (c : Corpus) (index : String) (o : SourceObject) (field : ContentField) : Shown :=
  match field.accessor.read o, field.isStruct with
  | .absent, _ | .value .null, _ => .value .null
  | .value value, false => .value value
  | .value _, true | .object _, false => .nothing
  | .object reference, true => c.shownThrough index reference

/-- The objects that some fields of an object show, in the order of the fields. -/
def shownObjects (c : Corpus) (index : String) (o : SourceObject)
    (rows : List (String × ContentField)) : List SourceObject :=
  rows.filterMap fun row => (c.shown index o row.2).object?

/-- The objects that an object shows on an index. -/
def next (c : Corpus) (index : String) (o : SourceObject) : List SourceObject :=
  match c.registry.content? o.typeName index with
  | none => []
  | some content => c.shownObjects index o content.fields.rows

/-- An object and all objects of a corpus. -/
def everyone (c : Corpus) (root : SourceObject) : List SourceObject :=
  root :: c.all

variable {c : Corpus} {index : String} {root o object : SourceObject}

lemma shownObjects_cons (c : Corpus) (index : String) (o : SourceObject)
    (row : String × ContentField) (rows : List (String × ContentField)) :
    c.shownObjects index o (row :: rows) =
      (c.shown index o row.2).object?.toList ++ c.shownObjects index o rows := by
  rw [shownObjects, List.filterMap_cons]
  cases (c.shown index o row.2).object? <;> rfl

lemma mem_everyone_of_shownThrough {reference : String}
    (h : c.shownThrough index reference = .portrait object) : object ∈ c.everyone root := by
  rw [shownThrough] at h
  split at h
  next => cases h
  next found hfound =>
    split at h
    next =>
      cases h
      exact List.mem_cons_of_mem _ (mem_all_of_get? hfound)
    next => split at h <;> cases h

lemma mem_everyone_of_shown {field : ContentField} (h : c.shown index o field = .portrait object) :
    object ∈ c.everyone root := by
  rw [shown] at h
  split at h
  case h_6 => exact mem_everyone_of_shownThrough h
  all_goals cases h

lemma mem_everyone_of_mem_next (h : object ∈ c.next index o) : object ∈ c.everyone root := by
  rw [next] at h
  split at h
  · exact absurd h List.not_mem_nil
  · obtain ⟨row, -, hrow⟩ := List.mem_filterMap.1 h
    exact mem_everyone_of_shown (Shown.eq_portrait_of_object? hrow)

end Corpus

/-! ## The walk -/

/-- A moment of a walk: the objects that are to be entered, and those that were begun, in the
order in which this happened. -/
structure Moment where
  pending : List SourceObject
  begun : List SourceObject

namespace Moment

/-- The identities of the objects that were begun. -/
def identities (m : Moment) : List String := m.begun.map (·.identity)

/-- Whether the object that is to be entered next has an identity that was begun before. -/
def Repeats (m : Moment) (identity : String) : Prop :=
  ∃ o rest, m.pending = o :: rest ∧ o.identity = identity ∧ identity ∈ m.identities

end Moment

namespace Walk

/-- One step of the walk on an index: the next object is entered. -/
inductive Step (c : Corpus) (index : String) : Moment → Moment → Prop
  | enter {o : SourceObject} {rest begun : List SourceObject}
      (hnew : o.identity ∉ begun.map (·.identity)) :
      Step c index ⟨o :: rest, begun⟩ ⟨c.next index o ++ rest, begun ++ [o]⟩

/-- Some steps of the walk. -/
abbrev Reaches (c : Corpus) (index : String) : Moment → Moment → Prop :=
  Relation.ReflTransGen (Step c index)

/-- The walk from an object begins with the object itself, if the gateway makes its document. -/
def start (root : SourceObject) : Moment :=
  match root.source with
  | .extracted => ⟨[root], []⟩
  | .own _ => ⟨[], []⟩

variable {c : Corpus} {index : String} {root : SourceObject} {m m' a b : Moment}

/-! ### The identities that were begun -/

/-- What is so at every moment of a walk: no identity was begun twice, and all the objects are the
one from which the walk began or stand in the corpus. -/
structure Sound (c : Corpus) (root : SourceObject) (m : Moment) : Prop where
  nodup : m.identities.Nodup
  begun : ∀ o ∈ m.begun, o ∈ c.everyone root
  pending : ∀ o ∈ m.pending, o ∈ c.everyone root

lemma sound_singleton (c : Corpus) (root : SourceObject) : Sound c root ⟨[root], []⟩ :=
  ⟨List.nodup_nil, by simp, by simp [Corpus.everyone]⟩

lemma sound_start (c : Corpus) (root : SourceObject) : Sound c root (start root) := by
  rw [start]
  split
  · exact sound_singleton c root
  · exact ⟨List.nodup_nil, by simp, by simp⟩

lemma Sound.step (h : Sound c root m) (hstep : Step c index m m') : Sound c root m' := by
  cases hstep with
  | @enter o rest begun hnew =>
    obtain ⟨ho, hrest⟩ := List.forall_mem_cons.1 h.pending
    refine ⟨?_, ?_, ?_⟩
    · rw [Moment.identities, List.map_append]
      refine h.nodup.append (List.nodup_singleton _) ?_
      simpa [Moment.identities] using hnew
    · exact List.forall_mem_append.2 ⟨h.begun, List.forall_mem_singleton.2 ho⟩
    · exact List.forall_mem_append.2 ⟨fun _ => Corpus.mem_everyone_of_mem_next, hrest⟩

lemma Sound.reaches (h : Sound c root m) (hwalk : Reaches c index m m') : Sound c root m' := by
  induction hwalk with
  | refl => exact h
  | tail _ hstep ih => exact ih.step hstep

lemma Sound.head {o : SourceObject} {rest begun : List SourceObject}
    (h : Sound c root ⟨o :: rest, begun⟩) : Sound c root ⟨[o], begun⟩ :=
  ⟨h.nodup, h.begun, List.forall_mem_singleton.2 (h.pending o List.mem_cons_self)⟩

/-- No more objects are begun than there are. -/
lemma Sound.length_begun_le (h : Sound c root m) : m.begun.length ≤ c.objects.size + 1 := by
  have hsub : m.identities ⊆ (c.everyone root).map (·.identity) :=
    List.map_subset _ h.begun
  have hlength := (List.subperm_of_subset h.nodup hsub).length_le
  simpa [Moment.identities, Corpus.everyone, Corpus.all, Table.size] using hlength

/-! ### Where the walk is stuck -/

lemma rightUnique_step : Relator.RightUnique (Step c index) := by
  intro m a b ha hb
  cases ha
  cases hb
  rfl

/-- No object can be entered at this moment. -/
def Stuck (c : Corpus) (index : String) (m : Moment) : Prop := ∀ m', ¬ Step c index m m'

lemma stuck_of_nil (begun : List SourceObject) : Stuck c index ⟨[], begun⟩ := by
  rintro m' ⟨⟩

lemma stuck_of_repeats {identity : String} (h : m.Repeats identity) : Stuck c index m := by
  rintro m' ⟨hnew⟩
  obtain ⟨o, rest, hpending, rfl, hmem⟩ := h
  obtain ⟨rfl, -⟩ := List.cons.inj hpending
  exact hnew hmem

/-- There is one moment only at which the walk is stuck. -/
lemma eq_of_reaches (ha : Reaches c index m a) (hb : Reaches c index m b)
    (hstuck : Stuck c index a) (hstuck' : Stuck c index b) : a = b := by
  rcases Relation.ReflTransGen.total_of_right_unique rightUnique_step ha hb with h | h
  · rcases Relation.ReflTransGen.cases_head h with heq | ⟨m', hstep, -⟩
    · exact heq
    · exact absurd hstep (hstuck m')
  · rcases Relation.ReflTransGen.cases_head h with heq | ⟨m', hstep, -⟩
    · exact heq.symm
    · exact absurd hstep (hstuck' m')

/-- A walk that comes to its end has met no object twice. -/
lemma not_repeats_of_reaches {begun : List SourceObject} (h : Reaches c index m ⟨[], begun⟩) :
    ¬ ∃ m' identity, Reaches c index m m' ∧ m'.Repeats identity := by
  rintro ⟨m', identity, hm', hrepeats⟩
  obtain rfl := eq_of_reaches h hm' (stuck_of_nil begun) (stuck_of_repeats hrepeats)
  obtain ⟨o, rest, hpending, -⟩ := hrepeats
  cases hpending

end Walk
end SearchGateway
