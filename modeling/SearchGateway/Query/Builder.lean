import SearchGateway.Query.Basic

/-!
# Building queries

A builder collects the clauses of a query in any order.  Shown attributes and sort keys
add up; for every other clause the last word counts.  The query that is built has its
clauses in a fixed order, and none that was not asked for.
-/
namespace SearchGateway

/-- The clauses of a query as far as they have been given. -/
structure QueryBuilder where
  matching : Option Criterion
  filter : Option Criterion
  select : List Attribute
  order : List SortKey
  limit : Option Nat
  offset : Option Nat
  scrollCursor : Option String
deriving Inhabited

namespace QueryBuilder

/-- A builder without clauses. -/
def empty : QueryBuilder := ⟨none, none, [], [], none, none, none⟩

/-- One thing that a caller asks of a builder. -/
inductive Step where
  | matching (criterion : Criterion)
  | filter (criterion : Criterion)
  | select (attrs : List Attribute)
  | order (attr : Attribute) (direction : Direction)
  | limit (count : Nat)
  | offset (count : Nat)
  | scrollCursor (cursor : String)
deriving Inhabited

/-- The builder after one more step. -/
def apply (b : QueryBuilder) : Step → QueryBuilder
  | .matching criterion => { b with matching := some criterion }
  | .filter criterion => { b with filter := some criterion }
  | .select attrs => { b with select := b.select ++ attrs }
  | .order attr direction => { b with order := b.order ++ [⟨direction, attr⟩] }
  | .limit count => { b with limit := some count }
  | .offset count => { b with offset := some count }
  | .scrollCursor cursor => { b with scrollCursor := some cursor }

/-- The builder after some steps. -/
def applyAll (b : QueryBuilder) (steps : List Step) : QueryBuilder := steps.foldl apply b

/-- The largest count that a literal holds. -/
def maxCount : Nat := Nat.pow 2 63 - 1

/-- A count as a literal; counts beyond the largest one become the largest one. -/
def countLiteral (count : Nat) : FieldValue := .integer (min count maxCount : Nat)

/-- The clauses that were asked for, in their fixed order. -/
def clauses (b : QueryBuilder) : List Clause :=
  (b.matching.map Clause.matching).toList ++
  (if b.select.isEmpty then [] else [Clause.select b.select]) ++
  (if b.order.isEmpty then [] else [Clause.order b.order]) ++
  (b.limit.map fun count => Clause.limit (countLiteral count)).toList ++
  (b.offset.map fun count => Clause.offset (countLiteral count)).toList ++
  (b.filter.map Clause.filter).toList ++
  (b.scrollCursor.map fun cursor => Clause.scrollCursor (.text cursor)).toList

/-- The query that was asked for. -/
def build (b : QueryBuilder) (index : SearchIndex) : Query := .ofClauses index b.clauses

end QueryBuilder
end SearchGateway
