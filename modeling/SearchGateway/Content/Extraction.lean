import SearchGateway.Content.Pass
import SearchGateway.Content.Registry

/-!
# Extraction of documents

The document of an object is made by reading the fields of its content.  A structured field
nests the document of the object it refers to, which is made in the same pass.  Objects may
refer to each other in circles; a pass therefore remembers every object whose document it
has begun, and meeting one of them again is an error, also when it is met on another way.

A pass that goes down only so far has no result where it would have to go deeper.  None has to go
deeper than there are objects, because every step down adds an identity to those that are
remembered, and nothing is ever forgotten (`Corpus.ends_extractWithin`).  A pass that is given one
step more than there are objects, and one for the object that it begins with, always has a result.
-/
namespace SearchGateway

/-- The document of an object on an index, if it has one; `extract` makes a document from the
content of its type. -/
def SourceObject.generate {m : Type → Type} [Monad m] (o : SourceObject) (index : String)
    (extract : ExceptT SearchError m Document) : ExceptT SearchError m (Option Document) :=
  match o.source with
  | .extracted => some <$> extract
  | .own answer => liftM (answer index)

/-- The objects of an application by name, and the registry of their contents. -/
structure Corpus where
  registry : Registry
  objects : Table SourceObject
deriving Inhabited

namespace Corpus

/-- Adds the fields of a content to a document; `nest` makes the document of a nested
object. -/
def readFields {m : Type → Type} [Monad m] (c : Corpus)
    (nest : SourceObject → m (Option Document)) (o : SourceObject) (document : Document) :
    List (String × ContentField) → m Document
  | [] => pure document
  | (name, field) :: rest =>
    match field.accessor.read o, field.isStruct with
    | .absent, _ | .value .null, _ => c.readFields nest o (document.set name .null) rest
    | .value value, false => c.readFields nest o (document.set name value) rest
    | .value _, true | .object _, false => c.readFields nest o document rest
    | .object reference, true =>
      match c.objects.get? reference with
      | none => c.readFields nest o (document.set name .null) rest
      | some object => do
        let value := match ← nest object with
          | some nested => .nested nested
          | none => .null
        c.readFields nest o (document.set name value) rest

/-- The document of an object, made in less than `depth` steps down. -/
def extractWithin (c : Corpus) (index : String) : (depth : Nat) → SourceObject → Descent Document
  | 0, _ => .tooDeep
  | depth + 1, o => do
    let content ← (c.registry.content o.typeName index : Except SearchError Content)
    Observer.add o.identity
    c.readFields (fun object => object.generate index (c.extractWithin index depth object))
      o .empty content.fields.rows

/-- How deep a pass can go: the object that it begins with, then every object of the corpus,
and one of them again. -/
def depth (c : Corpus) : Nat := c.objects.size + 2

/-! ### No pass goes too deep -/

/-- The objects of a corpus. -/
def all (c : Corpus) : List SourceObject := c.objects.rows.map Prod.snd

/-- The objects of a corpus that have not been seen. -/
def unseen (c : Corpus) (seen : Observer) : List SourceObject :=
  c.all.filter fun o => !seen.contains o.identity

variable {c : Corpus} {index : String} {o : SourceObject} {seen seen' : Observer} {depth : Nat}

theorem mem_all_of_get? {reference : String} (h : c.objects.get? reference = some o) :
    o ∈ c.all := by
  obtain ⟨before, after, hrows, -⟩ := List.lookup_eq_some_iff.1 h
  rw [all, hrows]
  simp

theorem length_unseen_le (c : Corpus) (seen : Observer) :
    (c.unseen seen).length ≤ c.objects.size := by
  have hle : (c.unseen seen).length ≤ c.all.length := List.length_filter_le _ _
  rwa [all, List.length_map] at hle

/-- When an object of the corpus has been seen, fewer are left. -/
theorem length_unseen_lt (ho : o ∈ c.all) (hnew : o.identity ∉ seen.visited)
    (hsub : o.identity :: seen.visited ⊆ seen'.visited) :
    (c.unseen seen').length < (c.unseen seen).length := by
  have hfilter : c.unseen seen' =
      (c.unseen seen).filter fun object => !seen'.contains object.identity := by
    rw [unseen, unseen, List.filter_filter]
    refine List.filter_congr fun object _ => ?_
    by_cases hseen : object.identity ∈ seen.visited
    · simp [Observer.contains, hseen, hsub (List.mem_cons_of_mem _ hseen)]
    · simp [Observer.contains, hseen]
  rw [hfilter, List.length_filter_lt_length_iff_exists]
  refine ⟨o, List.mem_filter.2 ⟨ho, ?_⟩, ?_⟩
  · simpa [Observer.contains] using hnew
  · simpa [Observer.contains] using hsub List.mem_cons_self

theorem ends_generate {p : Descent Document} (h : p.Ends seen) :
    Descent.Ends (o.generate index p) seen := by
  rw [SourceObject.generate]
  split
  · exact h.map some
  · exact Descent.ends_ofExcept _ _

theorem ends_readFields {nest : SourceObject → Descent (Option Document)}
    (rows : List (String × ContentField)) (document : Document)
    (hnest : ∀ object ∈ c.all, ∀ seen', seen.visited ⊆ seen'.visited →
      (nest object).Ends seen') :
    Descent.Ends (c.readFields nest o document rows) seen := by
  induction rows generalizing document seen with
  | nil => exact Descent.ends_ofExcept (.ok document) seen
  | cons row rows ih =>
    obtain ⟨name, field⟩ := row
    rw [readFields]
    split
    case h_6 =>
      split
      next => exact ih _ hnest
      next object hobject =>
        -- what is read after a nested document begins with an observer that has seen more
        have hmem : object ∈ c.all := mem_all_of_get? hobject
        refine (hnest object hmem seen (List.Subset.refl _)).bind fun nested seen' _ hsub => ?_
        exact ih _ fun other hother seen'' hsub' =>
          hnest other hother seen'' (List.Subset.trans hsub hsub')
    all_goals exact ih _ hnest

/-- A pass over an object has a result, if the passes over the objects that it may refer to have
results once it has been seen. -/
theorem ends_extractWithin_succ
    (hnest : o.identity ∉ seen.visited → ∀ object ∈ c.all, ∀ seen',
      o.identity :: seen.visited ⊆ seen'.visited →
        (c.extractWithin index depth object).Ends seen') :
    (c.extractWithin index (depth + 1) o).Ends seen := by
  rw [extractWithin]
  refine (Descent.ends_ofExcept _ seen).bind fun content seen₁ hcontent _ => ?_
  obtain rfl : seen = seen₁ := congrArg Prod.snd (Option.some.inj hcontent)
  refine (Descent.ends_add _ seen).bind fun _ seen₂ hadd _ => ?_
  rw [Descent.result?_add] at hadd
  split at hadd
  next => cases hadd
  next hnew =>
    cases hadd
    exact ends_readFields _ _ fun object hmem seen' hsub =>
      ends_generate (hnest hnew object hmem seen' hsub)

/-- A pass over an object of the corpus has a result, if it may go one step deeper than there are
objects that have not been seen. -/
theorem ends_extractWithin_of_mem (ho : o ∈ c.all) (hdepth : (c.unseen seen).length < depth) :
    (c.extractWithin index depth o).Ends seen := by
  induction depth generalizing o seen with
  | zero => omega
  | succ depth ih =>
    refine ends_extractWithin_succ fun hnew object hmem seen' hsub => ih hmem ?_
    have hlt := length_unseen_lt ho hnew hsub
    omega

/-- A pass over any object has a result, if it may go deep enough. -/
theorem ends_extractWithin (c : Corpus) (index : String) (o : SourceObject) (seen : Observer)
    (hdepth : c.depth ≤ depth) : (c.extractWithin index depth o).Ends seen := by
  rw [Corpus.depth] at hdepth
  obtain ⟨depth, rfl⟩ : ∃ less, depth = less + 1 := ⟨depth - 1, by omega⟩
  refine ends_extractWithin_succ fun _ object hmem seen' _ => ends_extractWithin_of_mem hmem ?_
  have hle := c.length_unseen_le seen'
  omega

/-- The document of an object as it follows from the content of its type. -/
def extract (c : Corpus) (index : String) (o : SourceObject) : Pass Document :=
  ExceptT.mk fun seen => ((c.extractWithin index c.depth o).result? seen).get <| by
    obtain ⟨out, seen', hresult, -⟩ := c.ends_extractWithin index o seen (Nat.le_refl _)
    rw [hresult]
    rfl

/-- The document of an object, if it has one. -/
def generate (c : Corpus) (index : String) (o : SourceObject) : Pass (Option Document) :=
  o.generate index (c.extract index o)

/-- The document of an object in a pass of its own, for a type that has a content. -/
def generateDocument (c : Corpus) (index : String) (o : SourceObject) :
    Except SearchError (Option Document) :=
  match c.registry.content o.typeName index with
  | .error e => .error e
  | .ok _ => ((c.generate index o).result .empty).1

end Corpus
end SearchGateway
