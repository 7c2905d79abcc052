import SearchGateway.Query.Errors
import SearchGateway.Decimal.Numeral

/-!
# Errors

What can go wrong between a caller, the gateway and a search engine, and the text that a
reader is shown.  An engine that is asked too often throttles the request; such an error is
transient, and no other error is.
-/
namespace SearchGateway

/-- What a client reports when an engine does not answer a request. -/
inductive ClientError where
  /-- The engine asks for fewer requests. -/
  | throttled (reason : String)
  /-- The engine could not be reached. -/
  | transport (reason : String)
  /-- The engine answered with a status that is not a success. -/
  | rejected (status : Nat) (reason : String)
deriving DecidableEq, Repr, Inhabited

/-- An error of the gateway. -/
inductive SearchError where
  /-- A query does not fit its index. -/
  | invalidQuery (errors : QueryErrors)
  /-- An object was met again while its document was being generated. -/
  | circularReference (identity : String)
  /-- A query language has no form for a part of a query. -/
  | unsupportedPart (target : String) (part : PartKind)
  /-- A query language has no form for a criterion on this attribute. -/
  | unsupportedAttribute (target : String) (part : PartKind) (path : String)
  /-- A document cannot be published. -/
  | indexing (reason : String)
  /-- A single document is larger than a whole upload may be. -/
  | payloadTooLarge (size max : Nat)
  /-- A field is defined in a way that makes no sense. -/
  | invalidField (reason : String)
  | unknownIndex (name : String)
  /-- There is no content for a type of objects on an index. -/
  | unknownContent (typeName index : String)
  /-- An index does not live on this engine. -/
  | incompatibleEngine (index expected actual : String)
  /-- A query for one index was given to an endpoint that is bound to another. -/
  | indexMismatch (query bound : String)
  | client (error : ClientError)
deriving DecidableEq, Repr, Inhabited

/-- Errors after which the same request may succeed later. -/
class Transient (ε : Type) where
  isTransient : ε → Bool

namespace ClientError

/-- Only throttling passes by itself. -/
def isTransient : ClientError → Bool
  | .throttled _ => true
  | _ => false

/-- The text that a reader is shown. -/
def message : ClientError → String
  | .throttled reason => "Backend throttled the request: " ++ reason
  | .transport reason => "Transport failure: " ++ reason
  | .rejected status reason =>
    "Backend rejected the request (" ++ Decimal.natText status ++ "): " ++ reason

instance : Transient ClientError := ⟨isTransient⟩

end ClientError

namespace SearchError

/-- Only throttling passes by itself. -/
def isTransient : SearchError → Bool
  | .client error => error.isTransient
  | _ => false

/-- The text that a reader is shown. -/
def message : SearchError → String
  | .invalidQuery errors => "Query failed schema validation: " ++ errors.text
  | .circularReference identity =>
    "Circular reference detected while extracting '" ++ identity ++ "'"
  | .unsupportedPart target part => target ++ " cannot compile " ++ part.name ++ " nodes"
  | .unsupportedAttribute target part path =>
    target ++ " cannot compile " ++ part.name ++ " on attribute '" ++ path ++ "'"
  | .indexing reason => "Indexing error: " ++ reason
  | .payloadTooLarge size max =>
    "Document of " ++ Decimal.natText size ++ " bytes exceeds the " ++ Decimal.natText max ++
      " byte payload limit"
  | .invalidField reason => "Invalid field definition: " ++ reason
  | .unknownIndex name => "Unknown index '" ++ name ++ "'"
  | .unknownContent typeName index =>
    "No content defined for type '" ++ typeName ++ "' on index '" ++ index ++ "'"
  | .incompatibleEngine index expected actual =>
    "Index '" ++ index ++ "' belongs to " ++ expected ++ ", not " ++ actual
  | .indexMismatch query bound =>
    "Query for index '" ++ query ++ "' cannot run on index '" ++ bound ++ "'"
  | .client error => error.message

instance : Transient SearchError := ⟨isTransient⟩

end SearchError
end SearchGateway
