import Mathlib.Tactic.Lemma
import SearchGateway.Client.Recording
import SearchGateway.Endpoint.Search
import SearchGateway.Proofs.Faults

/-!
# Running queries

Before a query is sent it is decided what becomes of it (`Endpoint.Decided`): it is refused by
the first check that it does not pass, or it is compiled.  The decision depends on the endpoint
and the query alone, and there is exactly one (`Endpoint.exists_decided`,
`Endpoint.Decided.unique`).  Two schemas take part in it: the query is checked against the schema
of its own index, but it is compiled against that of the index of the endpoint.

A refused query does not reach the client, whatever the client is.  A compiled one reaches it
once, and what the client answers to this one search is the outcome.
-/
namespace SearchGateway

lemma Validator.valid_failAll (v : Validator) (faults : List Fault) :
    (v.failAll faults).valid = true ↔ v.valid = true ∧ faults = [] := by
  induction faults generalizing v with
  | nil => simp
  | cons fault rest ih =>
    rw [failAll, List.foldl_cons, ← failAll, ih]
    simp [fail]

/-- A query passes its validation exactly when nothing in it is at fault. -/
lemma Query.validate_iff_faults (q : Query) :
    q.validate.1 = true ↔ q.index.schema.faults q.mentions = [] := by
  have hvisit := Validator.visit_eq (.ofSchema q.index.schema) (.query q)
  have hvalid := Validator.valid_failAll (.ofSchema q.index.schema)
    (q.index.schema.faults q.mentions)
  show ((Validator.ofSchema q.index.schema).visit (.query q)).valid = true ↔ _
  rw [hvisit]
  exact hvalid.trans (and_iff_right rfl)

namespace Endpoint

variable {e : Endpoint} {q : Query} {d d' : Except SearchError Request}

/-! ## Decisions -/

/-- What becomes of a query before anything is sent: the error of the first check that it does
not pass, or the request for it. -/
inductive Decided (e : Endpoint) (q : Query) : Except SearchError Request → Prop
  /-- The index of the query lives on the other engine. -/
  | foreign (hengine : q.index.engine ≠ e.engine) :
    Decided e q (.error (.incompatibleEngine q.index.name q.index.engine.name e.engine.name))
  /-- The query is for another index. -/
  | elsewhere (hengine : q.index.engine = e.engine) (hname : q.index.name ≠ e.index.name) :
    Decided e q (.error (.indexMismatch q.index.name e.index.name))
  /-- Something in the query does not go together with the schema of its own index. -/
  | faulty (hengine : q.index.engine = e.engine) (hname : q.index.name = e.index.name)
    (hfaults : q.index.schema.faults q.mentions ≠ []) :
    Decided e q (.error (.invalidQuery q.validated.errors))
  /-- The query has no form against the schema of the index of the endpoint. -/
  | uncompiled (hengine : q.index.engine = e.engine) (hname : q.index.name = e.index.name)
    (hfaults : q.index.schema.faults q.mentions = []) {error : SearchError}
    (hcompile : e.compile q = .error error) : Decided e q (.error error)
  /-- The query passes all checks. -/
  | compiled (hengine : q.index.engine = e.engine) (hname : q.index.name = e.index.name)
    (hfaults : q.index.schema.faults q.mentions = []) {request : Request}
    (hcompile : e.compile q = .ok request) : Decided e q (.ok request)

lemma exists_decided (e : Endpoint) (q : Query) : ∃ d, e.Decided q d := by
  by_cases hengine : q.index.engine = e.engine
  · by_cases hname : q.index.name = e.index.name
    · by_cases hfaults : q.index.schema.faults q.mentions = []
      · rcases hcompile : e.compile q with error | request
        · exact ⟨_, .uncompiled hengine hname hfaults hcompile⟩
        · exact ⟨_, .compiled hengine hname hfaults hcompile⟩
      · exact ⟨_, .faulty hengine hname hfaults⟩
    · exact ⟨_, .elsewhere hengine hname⟩
  · exact ⟨_, .foreign hengine⟩

lemma Decided.unique (h : e.Decided q d) (h' : e.Decided q d') : d = d' := by
  cases h with
  | foreign hengine =>
    cases h' with
    | foreign => rfl
    | elsewhere hengine' | faulty hengine' | uncompiled hengine' | compiled hengine' =>
      contradiction
  | elsewhere hengine hname =>
    cases h' with
    | elsewhere => rfl
    | foreign hengine' => contradiction
    | faulty _ hname' | uncompiled _ hname' | compiled _ hname' => contradiction
  | faulty hengine hname hfaults =>
    cases h' with
    | faulty => rfl
    | foreign hengine' => contradiction
    | elsewhere _ hname' => contradiction
    | uncompiled _ _ hfaults' | compiled _ _ hfaults' => contradiction
  | uncompiled hengine hname hfaults hcompile | compiled hengine hname hfaults hcompile =>
    cases h' with
    | foreign hengine' => contradiction
    | elsewhere _ hname' => contradiction
    | faulty _ _ hfaults' => contradiction
    | uncompiled _ _ _ hcompile' | compiled _ _ _ hcompile' =>
      exact hcompile.symm.trans hcompile'

/-! ## What is done -/

/-- The query as it is given back: it has the messages of its validation if it was validated. -/
def checked (e : Endpoint) (q : Query) : Query :=
  { q with errors :=
      if q.index.engine = e.engine ∧ q.index.name = e.index.name then q.validated.errors
      else q.errors }

/-- The outcome of a search that the client has answered. -/
def outcomeOf (e : Endpoint) : Response → Except SearchError Results
  | .ok raw => .ok ⟨e.engine, raw, e.separator⟩
  | .error error => .error (.client error)

/-- What is noted down about a search that the client has answered, the latest first. -/
def searchNotes (e : Endpoint) : Response → List Event
  | .ok raw =>
    [.searchTimed e.engine, .searched e.engine .success,
      .received e.engine (Results.size ⟨e.engine, raw, e.separator⟩)]
  | .error _ => [.searchTimed e.engine, .searched e.engine .error]

section

variable {σ : Type} [SearchClient σ] {request : Request} {s : Session σ} {answer : Response}
  {client : σ}

lemma send_eq (h : SearchClient.search request s.client = (answer, client)) :
    e.send request s =
      (e.outcomeOf answer, { s with client, events := e.searchNotes answer ++ s.events }) := by
  rw [send, Session.call, h]
  cases answer with
  | error error => rfl
  | ok raw => rfl

lemma checked_of_bound (hengine : q.index.engine = e.engine) (hname : q.index.name = e.index.name) :
    e.checked q = q.validated := by
  rw [checked, if_pos ⟨hengine, hname⟩]
  rfl

lemma checked_of_not_bound (h : ¬ (q.index.engine = e.engine ∧ q.index.name = e.index.name)) :
    e.checked q = q := by
  rw [checked, if_neg h]

/-- What is done with a query that is for the index of the endpoint. -/
lemma execute_of_bound (hengine : q.index.engine = e.engine) (hname : q.index.name = e.index.name)
    (s : Session σ) :
    e.execute q s =
      match q.ensureValid with
      | .error error => ⟨.error error, e.checked q, s.note (.searched e.engine .invalid)⟩
      | .ok _ =>
        match e.compile q with
        | .error error => ⟨.error error, e.checked q, s⟩
        | .ok request => ⟨(e.send request s).1, e.checked q, (e.send request s).2⟩ := by
  have hensureEngine : q.index.ensureEngine e.engine = .ok () := if_pos hengine
  have hensureIndex : e.ensureIndex q = .ok () := if_pos hname
  rw [execute, hensureEngine, hensureIndex, checked_of_bound hengine hname]
  rfl

/-- A query that is refused does not reach the client; at most it is noted down that it was not
valid. -/
lemma execute_of_refused {error : SearchError} (h : e.Decided q (.error error)) (s : Session σ) :
    ∃ notes : List Event, (notes = [] ∨ notes = [.searched e.engine .invalid]) ∧
      e.execute q s = ⟨.error error, e.checked q, { s with events := notes ++ s.events }⟩ := by
  cases h with
  | foreign hengine =>
    have hensureEngine : q.index.ensureEngine e.engine = .error _ := if_neg hengine
    refine ⟨[], .inl rfl, ?_⟩
    rw [execute, hensureEngine, checked_of_not_bound fun hbound => hengine hbound.1]
    rfl
  | elsewhere hengine hname =>
    have hensureEngine : q.index.ensureEngine e.engine = .ok () := if_pos hengine
    have hensureIndex : e.ensureIndex q = .error _ := if_neg hname
    refine ⟨[], .inl rfl, ?_⟩
    rw [execute, hensureEngine, hensureIndex, checked_of_not_bound fun hbound => hname hbound.2]
    rfl
  | faulty hengine hname hfaults =>
    have hinvalid : ¬ q.validate.1 = true := mt q.validate_iff_faults.1 hfaults
    refine ⟨[.searched e.engine .invalid], .inr rfl, ?_⟩
    rw [execute_of_bound hengine hname, Query.ensureValid_eq, if_neg hinvalid]
    rfl
  | uncompiled hengine hname hfaults hcompile =>
    refine ⟨[], .inl rfl, ?_⟩
    rw [execute_of_bound hengine hname, Query.ensureValid_eq,
      if_pos (q.validate_iff_faults.2 hfaults), hcompile]
    rfl

lemma execute_of_compiled (h : e.Decided q (.ok request)) (s : Session σ) :
    e.execute q s = ⟨(e.send request s).1, e.checked q, (e.send request s).2⟩ := by
  cases h with
  | compiled hengine hname hfaults hcompile =>
    rw [execute_of_bound hengine hname, Query.ensureValid_eq,
      if_pos (q.validate_iff_faults.2 hfaults), hcompile]

end

/-! ## The main statement -/

/-- A recording client answers a search that it does not throttle, and keeps it. -/
lemma search_eq (request : Request) (c : RecordingClient) :
    SearchClient.search request c =
      (if c.throttleRemaining = 0 then .ok c.response
        else .error (RecordingClient.throttledOn (c.calls + 1)),
        { c with
          calls := c.calls + 1
          searches := if c.throttleRemaining = 0 then c.searches ++ [request] else c.searches
          throttleRemaining := c.throttleRemaining - 1 }) := by
  rcases hthrottle : c.throttleRemaining with _ | remaining
  · simp [SearchClient.search, RecordingClient.search, RecordingClient.handle, hthrottle]
  · simp [SearchClient.search, RecordingClient.search, RecordingClient.handle, hthrottle]

end Endpoint
end SearchGateway
