import SearchGateway.Query.PartKind

/-!
# Messages about a query

The messages that were found about the parts of a query, in the order in which they were
found.  They are read in groups, one for each kind of part, and within a group in the
order in which they were found.
-/
namespace SearchGateway

/-- Messages about the parts of a query, in the order in which they were found. -/
structure QueryErrors where
  found : List (PartKind × String)
deriving DecidableEq, Repr

namespace QueryErrors

instance : Inhabited QueryErrors := ⟨⟨[]⟩⟩

/-- No messages. -/
def empty : QueryErrors := ⟨[]⟩

/-- Adds a message. -/
def push (e : QueryErrors) (kind : PartKind) (message : String) : QueryErrors :=
  ⟨e.found ++ [(kind, message)]⟩

/-- The messages about one kind of part. -/
def get (e : QueryErrors) (kind : PartKind) : List String :=
  (e.found.filter fun entry => entry.1 == kind).map Prod.snd

/-- Whether there are no messages. -/
def isEmpty (e : QueryErrors) : Bool := e.found.isEmpty

/-- The number of messages. -/
def size (e : QueryErrors) : Nat := e.found.length

/-- The messages by kind of part, in the order of the kinds and without empty groups. -/
def groups (e : QueryErrors) : List (PartKind × List String) :=
  (PartKind.all.map fun kind => (kind, e.get kind)).filter fun group => !group.2.isEmpty

/-- All messages on one line, group after group. -/
def text (e : QueryErrors) : String := "; ".intercalate (e.groups.flatMap Prod.snd)

end QueryErrors
end SearchGateway
