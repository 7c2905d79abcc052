/-!
# Maps with ordered keys

A finite map from text to values whose entries are kept in the order of their keys, the
order of the code points and so that of the bytes of the encoded text.  Every operation
keeps the order, and the view of a map is the function `get?`.
-/
namespace SearchGateway

/-- A map from text to values; its entries stand in increasing order of the keys. -/
structure KeyMap (α : Type u) where
  /-- The entries, in increasing order of the keys. -/
  entries : List (String × α)
deriving DecidableEq, Repr

namespace KeyMap

variable {α : Type u} {β : Type v}

instance : Inhabited (KeyMap α) := ⟨⟨[]⟩⟩

/-- The map without entries. -/
def empty : KeyMap α := ⟨[]⟩

/-- The keys of a map, in increasing order. -/
def keys (m : KeyMap α) : List String := m.entries.map Prod.fst

/-- The values of a map, in the order of their keys. -/
def values (m : KeyMap α) : List α := m.entries.map Prod.snd

/-- The number of entries. -/
def size (m : KeyMap α) : Nat := m.entries.length

/-- Whether there are no entries. -/
def isEmpty (m : KeyMap α) : Bool := m.entries.isEmpty

/-- The value at a key. -/
def get? (m : KeyMap α) (key : String) : Option α := m.entries.lookup key

/-- Puts an entry at its place, over the one that is there. -/
def insertEntry (key : String) (value : α) : List (String × α) → List (String × α)
  | [] => [(key, value)]
  | (k, v) :: rest =>
    if key < k then (key, value) :: (k, v) :: rest
    else if key = k then (key, value) :: rest
    else (k, v) :: insertEntry key value rest

/-- Sets the value at a key. -/
def insert (m : KeyMap α) (key : String) (value : α) : KeyMap α :=
  ⟨insertEntry key value m.entries⟩

/-- Removes the entry at a key. -/
def erase (m : KeyMap α) (key : String) : KeyMap α :=
  ⟨m.entries.filter fun entry => entry.1 ≠ key⟩

/-- The map that results from setting the given entries one after the other. -/
def ofList (entries : List (String × α)) : KeyMap α :=
  entries.foldl (fun m entry => m.insert entry.1 entry.2) empty

/-- Applies a function to every value. -/
def mapValues (f : α → β) (m : KeyMap α) : KeyMap β :=
  ⟨m.entries.map fun entry => (entry.1, f entry.2)⟩

/-- Keeps the entries whose value passes a test. -/
def filterValues (p : α → Bool) (m : KeyMap α) : KeyMap α :=
  ⟨m.entries.filter fun entry => p entry.2⟩

/-- The entries stand in increasing order of their keys, so that no key occurs twice. -/
def Sorted (m : KeyMap α) : Prop := m.entries.Pairwise fun a b => a.1 < b.1

instance (m : KeyMap α) : Decidable m.Sorted :=
  inferInstanceAs (Decidable (List.Pairwise _ _))

end KeyMap
end SearchGateway
