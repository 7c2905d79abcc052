import SearchGateway.Query.Criterion
import SearchGateway.Query.Errors
import SearchGateway.Schema.Basic

/-!
# Queries

A query asks one index for documents.  It is a list of clauses, each of which settles one
side of the question, and it carries the messages of its last validation.
-/
namespace SearchGateway

/-- A direction of sorting. -/
inductive Direction where
  | ascending
  | descending
deriving DecidableEq, Repr, Inhabited

/-- The kind of a direction. -/
def Direction.kind : Direction → PartKind
  | .ascending => .ascending
  | .descending => .descending

/-- An attribute by which hits are sorted. -/
structure SortKey where
  direction : Direction
  attr : Attribute
deriving DecidableEq, Repr, Inhabited

/-- A clause of a query. -/
inductive Clause where
  /-- What the hits match, and by what they are ranked. -/
  | matching (criterion : Criterion)
  /-- The attributes that are shown. -/
  | select (attrs : List Attribute)
  /-- The order of the hits. -/
  | order (keys : List SortKey)
  /-- How many hits are shown. -/
  | limit (count : FieldValue)
  /-- How many hits are left out in front. -/
  | offset (count : FieldValue)
  /-- What the hits match without being ranked by it. -/
  | filter (criterion : Criterion)
  /-- Where an earlier answer ended. -/
  | scrollCursor (cursor : FieldValue)
deriving Inhabited

namespace Clause

/-- The kind of a clause. -/
def kind : Clause → PartKind
  | .matching _ => .matching
  | .select _ => .select
  | .order _ => .order
  | .limit _ => .limit
  | .offset _ => .offset
  | .filter _ => .filter
  | .scrollCursor _ => .scrollCursor

/-- Equality of clauses. -/
def same : Clause → Clause → Bool
  | .matching a, .matching b => a.same b
  | .select a, .select b => a == b
  | .order a, .order b => a == b
  | .limit a, .limit b => a.same b
  | .offset a, .offset b => a.same b
  | .filter a, .filter b => a.same b
  | .scrollCursor a, .scrollCursor b => a.same b
  | _, _ => false

/-- Equality of lists of clauses. -/
def sameAll : List Clause → List Clause → Bool
  | [], [] => true
  | a :: as, b :: bs => a.same b && sameAll as bs
  | _, _ => false

end Clause

/-- A question to an index. -/
structure Query where
  index : SearchIndex
  clauses : List Clause
  /-- The messages of the last validation. -/
  errors : QueryErrors
deriving Inhabited

namespace Query

/-- A query that has not been validated. -/
def ofClauses (index : SearchIndex) (clauses : List Clause) : Query :=
  ⟨index, clauses, .empty⟩

/-- The first clause of a kind. -/
def clause? (q : Query) (kind : PartKind) : Option Clause :=
  q.clauses.find? fun clause => clause.kind == kind

/-- Equality of queries: the same clauses for an index of the same name. -/
def same (a b : Query) : Bool := a.index.name == b.index.name && Clause.sameAll a.clauses b.clauses

end Query
end SearchGateway
