/-!
# Kinds of query parts

Every part of a query has a kind: attributes and literals, the criteria, the directions of
a sort order, the clauses and the query itself.  Messages name the kind of the part that
they are about, and collected messages are grouped by it, in the order of this list.
-/
namespace SearchGateway

/-- The kind of a part of a query. -/
inductive PartKind where
  | attr
  | value
  | equal
  | notEqual
  | greater
  | less
  | greaterEqual
  | lessEqual
  | contains
  | starts
  | freeText
  | fuzzy
  | greaterAndLess
  | greaterEqualAndLess
  | greaterAndLessEqual
  | greaterEqualAndLessEqual
  | not
  | and
  | or
  | ascending
  | descending
  | matching
  | filter
  | select
  | order
  | limit
  | offset
  | scrollCursor
  | query
deriving DecidableEq, Repr, Inhabited

namespace PartKind

/-- All kinds, in the order in which messages are grouped. -/
def all : List PartKind :=
  [.attr, .value, .equal, .notEqual, .greater, .less, .greaterEqual, .lessEqual,
    .contains, .starts, .freeText, .fuzzy, .greaterAndLess, .greaterEqualAndLess,
    .greaterAndLessEqual, .greaterEqualAndLessEqual, .not, .and, .or, .ascending,
    .descending, .matching, .filter, .select, .order, .limit, .offset, .scrollCursor, .query]

/-- The name of a kind. -/
def name : PartKind → String
  | .attr => "Attribute"
  | .value => "Value"
  | .equal => "Equal"
  | .notEqual => "NotEqual"
  | .greater => "Greater"
  | .less => "Less"
  | .greaterEqual => "GreaterEqual"
  | .lessEqual => "LessEqual"
  | .contains => "Contains"
  | .starts => "Starts"
  | .freeText => "FreeText"
  | .fuzzy => "Fuzzy"
  | .greaterAndLess => "GreaterAndLess"
  | .greaterEqualAndLess => "GreaterEqualAndLess"
  | .greaterAndLessEqual => "GreaterAndLessEqual"
  | .greaterEqualAndLessEqual => "GreaterEqualAndLessEqual"
  | .not => "Not"
  | .and => "And"
  | .or => "Or"
  | .ascending => "Ascending"
  | .descending => "Descending"
  | .matching => "Where"
  | .filter => "Filter"
  | .select => "Select"
  | .order => "Order"
  | .limit => "Limit"
  | .offset => "Offset"
  | .scrollCursor => "ScrollCursor"
  | .query => "Query"

/-- The kind with a given name. -/
def ofName? (name : String) : Option PartKind := all.find? fun kind => kind.name == name

end PartKind
end SearchGateway
