import SearchGateway.Error
import SearchGateway.Query.Basic

/-!
# Validation of queries

A validator walks over a query and checks it against a schema.  Every attribute must name
something that the schema declares, and every literal must be one that the field it is
compared with accepts; the wildcard and the score need no declaration, and counts and cursors
are compared with no field.  The walk never stops early.  It writes down a message for each
fault and remembers that there was one, and whoever validates several parts of queries with
one validator keeps what was found before.

A literal is looked at only when its attribute is in order, so a missing attribute is
reported once and not again for each of its literals.
-/
namespace SearchGateway

/-- What is wrong with a part of a query. -/
inductive Fault where
  /-- The schema declares nothing at this path. -/
  | undeclared (attr : Attribute) (container : PartKind)
  /-- The literal does not fit what the schema declares at this path. -/
  | misfit (value : FieldValue) (attr : Attribute) (container : PartKind) (declared : String)
deriving Inhabited

namespace Fault

/-- The kind of part that is at fault. -/
def kind : Fault → PartKind
  | .undeclared _ _ => .attr
  | .misfit _ _ _ _ => .value

/-- The message about a fault. -/
def message : Fault → String
  | .undeclared attr container =>
    "Attribute '" ++ attr.path ++ "' in " ++ container.name ++ " missing from schema"
  | .misfit value attr container declared =>
    "Value " ++ value.display ++ " for " ++ attr.path ++ " in " ++ container.name ++
      " is defined as " ++ declared ++ " type in schema"

end Fault

/-- Something that can be validated. -/
inductive Visit where
  | query (query : Query)
  | clause (clause : Clause)
  | criterion (criterion : Criterion)
deriving Inhabited

/-- A schema together with what was found against it so far. -/
structure Validator where
  schema : Schema
  /-- Whether nothing was wrong. -/
  valid : Bool
  errors : QueryErrors
deriving Inhabited

namespace Validator

/-- A validator that has seen nothing. -/
def ofSchema (schema : Schema) : Validator := ⟨schema, true, .empty⟩

/-- The validator after a fault. -/
def fail (v : Validator) (fault : Fault) : Validator :=
  { v with valid := false, errors := v.errors.push fault.kind fault.message }

/-- Whether an attribute is in order, and the validator after it was looked at. -/
def checkAttribute (v : Validator) (attr : Attribute) (container : PartKind) : Bool × Validator :=
  if attr.isWildcard || attr.isScore then (true, v)
  else if (v.schema.resolve? attr.path).isSome then (true, v)
  else (false, v.fail (.undeclared attr container))

/-- The validator after it has looked at a literal that is compared with an attribute. -/
def checkValue (v : Validator) (value : FieldValue) (attr : Attribute) (container : PartKind) :
    Validator :=
  match v.schema.resolve? attr.path with
  | some (.field type) =>
    if type.kind.accepts value then v else v.fail (.misfit value attr container type.kind.tag)
  | some (.nested _) => v.fail (.misfit value attr container FieldKind.struct.tag)
  | none => v

mutual

/-- The validator after it has walked over a criterion, from left to right. -/
def checkCriterion (v : Validator) : Criterion → Validator
  | .compare comparison attr value =>
    match v.checkAttribute attr comparison.kind with
    | (true, v) => v.checkValue value attr comparison.kind
    | (false, v) => v
  | .between bounds attr low high =>
    match v.checkAttribute attr bounds.kind with
    | (true, v) => (v.checkValue low attr bounds.kind).checkValue high attr bounds.kind
    | (false, v) => v
  | .not criterion => v.checkCriterion criterion
  | .all criteria => v.checkCriteria criteria
  | .any criteria => v.checkCriteria criteria

/-- The validator after it has walked over some criteria, one after the other. -/
def checkCriteria (v : Validator) : List Criterion → Validator
  | [] => v
  | criterion :: rest => (v.checkCriterion criterion).checkCriteria rest

end

/-- The validator after it has walked over a clause.  An attribute that is sorted by stands in
its direction, not in the clause. -/
def checkClause (v : Validator) : Clause → Validator
  | .matching criterion => v.checkCriterion criterion
  | .filter criterion => v.checkCriterion criterion
  | .select attrs => attrs.foldl (fun v attr => (v.checkAttribute attr .select).2) v
  | .order keys => keys.foldl (fun v key => (v.checkAttribute key.attr key.direction.kind).2) v
  | .limit _ | .offset _ | .scrollCursor _ => v

/-- Whether nothing was wrong up to the end of a query, and the validator there. -/
def checkQuery (v : Validator) (q : Query) : Bool × Validator :=
  let v := q.clauses.foldl checkClause v
  (v.valid, v)

/-- The validator after a visit. -/
def visit (v : Validator) : Visit → Validator
  | .query q => (v.checkQuery q).2
  | .clause clause => v.checkClause clause
  | .criterion criterion => v.checkCriterion criterion

end Validator

namespace Query

/-- Whether a query fits the schema of its own index, and the query with the messages of this
validation in place of those of earlier ones. -/
def validate (q : Query) : Bool × Query :=
  let (valid, v) := (Validator.ofSchema q.index.schema).checkQuery q
  (valid, { q with errors := v.errors })

/-- Whether a query fits the schema of its own index. -/
def isValid (q : Query) : Bool := q.validate.1

/-- The query after a validation. -/
def validated (q : Query) : Query := q.validate.2

/-- Fails with all messages if a query does not fit the schema of its own index. -/
def ensureValid (q : Query) : Except SearchError Unit :=
  match q.validate with
  | (true, _) => .ok ()
  | (false, q) => .error (.invalidQuery q.errors)

end Query
end SearchGateway
