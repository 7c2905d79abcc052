/-!
# Tables

A finite map from names to values that remembers the order in which the names were first
set.  Setting a name that is there replaces its value and keeps its place.
-/
namespace SearchGateway

/-- A map from names to values; its rows stand in the order in which the names were first
set. -/
structure Table (α : Type u) where
  /-- The rows, in the order in which the names were first set. -/
  rows : List (String × α)
deriving DecidableEq, Repr

namespace Table

variable {α : Type u} {β : Type v}

instance : Inhabited (Table α) := ⟨⟨[]⟩⟩

/-- The table without rows. -/
def empty : Table α := ⟨[]⟩

/-- The names, in the order in which they were first set. -/
def names (t : Table α) : List String := t.rows.map Prod.fst

/-- The number of rows. -/
def size (t : Table α) : Nat := t.rows.length

/-- Whether there are no rows. -/
def isEmpty (t : Table α) : Bool := t.rows.isEmpty

/-- The value at a name. -/
def get? (t : Table α) (name : String) : Option α := t.rows.lookup name

/-- Replaces the value of a name at its place, or adds a row at the end. -/
def setRow (name : String) (value : α) : List (String × α) → List (String × α)
  | [] => [(name, value)]
  | (n, v) :: rest =>
    if n = name then (name, value) :: rest else (n, v) :: setRow name value rest

/-- Sets the value at a name. -/
def set (t : Table α) (name : String) (value : α) : Table α := ⟨setRow name value t.rows⟩

/-- Sets all the rows of another table, in its order. -/
def update (t other : Table α) : Table α :=
  other.rows.foldl (fun t row => t.set row.1 row.2) t

/-- The table that results from setting the given rows one after the other. -/
def ofList (rows : List (String × α)) : Table α := update empty ⟨rows⟩

/-- No name has two rows. -/
def Distinct (t : Table α) : Prop := t.names.Nodup

instance (t : Table α) : Decidable t.Distinct :=
  inferInstanceAs (Decidable (List.Nodup _))

end Table
end SearchGateway
