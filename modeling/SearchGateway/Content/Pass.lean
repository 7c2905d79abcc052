import SearchGateway.Error

/-!
# Passes

A pass makes the documents of objects that refer to each other.  Its observer remembers every
object whose document was begun, and refuses an object that it has seen.

A pass that goes down only so far has no result where it would have to go deeper.  Where it has
one, nothing that was seen is forgotten (`Descent.Ends`); all that a pass is built of keeps this.
-/
namespace SearchGateway

/-- The identities of the objects whose documents have been begun in a pass. -/
structure Observer where
  visited : List String
deriving DecidableEq, Repr, Inhabited

namespace Observer

/-- An observer that has seen no object. -/
def empty : Observer := ⟨[]⟩

/-- Whether an object has been seen. -/
def contains (o : Observer) (identity : String) : Bool := o.visited.contains identity

/-- The number of objects that have been seen. -/
def size (o : Observer) : Nat := o.visited.length

/-- Remembers an object, which must not have been seen. -/
def add {m : Type → Type} [Monad m] [MonadStateOf Observer m] (identity : String) :
    ExceptT SearchError m Unit := do
  if (← get).contains identity then throw (.circularReference identity)
  modify fun o => ⟨identity :: o.visited⟩

end Observer

/-- A step of a pass: it has the observer of the pass, also after an error. -/
abbrev Pass (α : Type) := ExceptT SearchError (StateM Observer) α

/-- A step of a pass that goes down only so far: it may have no result. -/
abbrev Descent (α : Type) := ExceptT SearchError (StateT Observer Option) α

/-- What a pass ends with, and what has been seen by then, when it begins with an observer. -/
def Pass.result {α : Type} (p : Pass α) (seen : Observer) : Except SearchError α × Observer :=
  p.run.run seen

namespace Descent

variable {α β : Type}

/-- What a pass ends with, and what has been seen by then, unless it would have to go deeper. -/
def result? (p : Descent α) (seen : Observer) : Option (Except SearchError α × Observer) :=
  p.run.run seen

/-- A pass would have to go deeper. -/
def tooDeep : Descent α := ExceptT.mk fun _ => none

/-- A pass has a result, and no object that was seen is forgotten. -/
def Ends (p : Descent α) (seen : Observer) : Prop :=
  ∃ out seen', p.result? seen = some (out, seen') ∧ seen.visited ⊆ seen'.visited

theorem result?_bind (p : Descent α) (f : α → Descent β) (seen : Observer) :
    result? (p >>= f) seen =
      match p.result? seen with
      | none => none
      | some (.ok a, seen') => (f a).result? seen'
      | some (.error e, seen') => some (.error e, seen') := by
  simp only [result?]
  rw [ExceptT.run_bind, StateT.run_bind]
  rcases p.run.run seen with _ | ⟨e | a, seen'⟩ <;> rfl

theorem result?_map (f : α → β) (p : Descent α) (seen : Observer) :
    result? (f <$> p) seen = (p.result? seen).map fun r => (r.1.map f, r.2) := by
  simp only [result?]
  rw [ExceptT.run_map, StateT.run_map]
  rcases p.run.run seen with _ | ⟨e | a, seen'⟩ <;> rfl

theorem result?_add (identity : String) (seen : Observer) :
    result? (Observer.add identity) seen =
      if identity ∈ seen.visited then some (.error (.circularReference identity), seen)
      else some (.ok (), ⟨identity :: seen.visited⟩) := by
  have hget : result? (get : Descent Observer) seen = some (.ok seen, seen) := rfl
  rw [Observer.add, result?_bind, hget]
  by_cases h : identity ∈ seen.visited
  · have hcontains : seen.contains identity = true := by simpa [Observer.contains] using h
    simp only [hcontains, h, if_true]
    rfl
  · have hcontains : seen.contains identity = false := by simpa [Observer.contains] using h
    simp only [hcontains, h, if_false]
    rfl

theorem ends_ofExcept (result : Except SearchError α) (seen : Observer) :
    Ends (liftM result : Descent α) seen := ⟨result, seen, rfl, List.Subset.refl _⟩

theorem ends_add (identity : String) (seen : Observer) : Ends (Observer.add identity) seen := by
  rw [Ends, result?_add]
  split
  · exact ⟨_, _, rfl, List.Subset.refl _⟩
  · exact ⟨_, _, rfl, List.subset_cons_self _ _⟩

theorem Ends.bind {p : Descent α} {f : α → Descent β} {seen : Observer} (h : Ends p seen)
    (hnext : ∀ a seen', p.result? seen = some (.ok a, seen') → seen.visited ⊆ seen'.visited →
      Ends (f a) seen') : Ends (p >>= f) seen := by
  obtain ⟨out, seen', hresult, hsub⟩ := h
  rw [Ends, result?_bind, hresult]
  cases out with
  | error e => exact ⟨.error e, seen', rfl, hsub⟩
  | ok a =>
    obtain ⟨out, seen'', hout, hsub'⟩ := hnext a seen' hresult hsub
    exact ⟨out, seen'', hout, List.Subset.trans hsub hsub'⟩

theorem Ends.map {p : Descent α} {seen : Observer} (f : α → β) (h : Ends p seen) :
    Ends (f <$> p) seen := by
  obtain ⟨out, seen', hresult, hsub⟩ := h
  exact ⟨out.map f, seen', by rw [result?_map, hresult]; rfl, hsub⟩

end Descent

end SearchGateway
