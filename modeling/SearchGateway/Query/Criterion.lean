import SearchGateway.FieldName
import SearchGateway.Document.Value
import SearchGateway.Query.PartKind

/-!
# Criteria

A criterion says which documents a query looks for.  It compares a field with a literal or
with two bounds, or it combines other criteria.  A field is named by its path; two paths
stand for no field of the schema, the wildcard for any field and the score for the
relevance of a hit.
-/
namespace SearchGateway

/-- A field as a query names it. -/
structure Attribute where
  path : String
deriving DecidableEq, Repr, Inhabited

namespace Attribute

/-- Any field. -/
def wildcard : Attribute := ⟨"*"⟩

/-- The relevance of a hit. -/
def score : Attribute := ⟨"_score"⟩

/-- Whether this is any field. -/
def isWildcard (a : Attribute) : Bool := a == wildcard

/-- Whether this is the relevance of a hit. -/
def isScore (a : Attribute) : Bool := a == score

/-- The name of the field in stored documents. -/
def flatName (a : Attribute) : String := FieldName.ofPath a.path

end Attribute

/-- How a field is compared with one literal. -/
inductive Comparison where
  | equal
  | notEqual
  | greater
  | less
  | greaterEqual
  | lessEqual
  | contains
  | starts
  | freeText
  | fuzzy
deriving DecidableEq, Repr, Inhabited

/-- The kind of a comparison. -/
def Comparison.kind : Comparison → PartKind
  | .equal => .equal
  | .notEqual => .notEqual
  | .greater => .greater
  | .less => .less
  | .greaterEqual => .greaterEqual
  | .lessEqual => .lessEqual
  | .contains => .contains
  | .starts => .starts
  | .freeText => .freeText
  | .fuzzy => .fuzzy

/-- How a field is compared with two bounds: which of them may be reached. -/
structure Bounds where
  lowIncluded : Bool
  highIncluded : Bool
deriving DecidableEq, Repr, Inhabited

/-- The kind of a comparison with two bounds. -/
def Bounds.kind : Bounds → PartKind
  | ⟨false, false⟩ => .greaterAndLess
  | ⟨true, false⟩ => .greaterEqualAndLess
  | ⟨false, true⟩ => .greaterAndLessEqual
  | ⟨true, true⟩ => .greaterEqualAndLessEqual

/-- Which documents a query looks for. -/
inductive Criterion where
  | compare (comparison : Comparison) (attr : Attribute) (value : FieldValue)
  | between (bounds : Bounds) (attr : Attribute) (low high : FieldValue)
  | not (criterion : Criterion)
  | all (criteria : List Criterion)
  | any (criteria : List Criterion)
deriving Inhabited

namespace Criterion

/-- The kind of a criterion. -/
def kind : Criterion → PartKind
  | .compare comparison _ _ => comparison.kind
  | .between bounds _ _ _ => bounds.kind
  | .not _ => .not
  | .all _ => .and
  | .any _ => .or

/-- Both of two criteria. -/
def and (a b : Criterion) : Criterion := .all [a, b]

/-- One of two criteria. -/
def or (a b : Criterion) : Criterion := .any [a, b]

mutual

/-- Equality of criteria. -/
def same : Criterion → Criterion → Bool
  | .compare c a v, .compare d b w => c == d && a == b && v.same w
  | .between s a low high, .between t b low' high' =>
    s == t && a == b && low.same low' && high.same high'
  | .not a, .not b => a.same b
  | .all as, .all bs => sameAll as bs
  | .any as, .any bs => sameAll as bs
  | _, _ => false

/-- Equality of lists of criteria. -/
def sameAll : List Criterion → List Criterion → Bool
  | [], [] => true
  | a :: as, b :: bs => a.same b && sameAll as bs
  | _, _ => false

end

end Criterion
end SearchGateway
