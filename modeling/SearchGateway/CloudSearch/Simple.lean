import SearchGateway.CloudSearch.Structured

/-!
# The simple query language

The simple language looks for words anywhere in a document.  Only a single comparison on
the wildcard has a form in it: `star` for a word, `"star wars"` for a phrase, `sta*` for the
beginning of a word and `star~1` for words that are nearly the same.
-/
namespace SearchGateway.CloudSearch

/-- The comparisons that have a form in the simple language. -/
def simpleComparison : Comparison → Bool
  | .equal | .freeText | .contains | .starts | .fuzzy => true
  | .notEqual | .greater | .less | .greaterEqual | .lessEqual => false

/-- A phrase: a backslash stands before each quotation mark in it. -/
def simplePhrase (term : String) : String :=
  "\"" ++
    String.ofList (term.toList.flatMap fun c => if c = '"' then ['\\', '"'] else [c]) ++ "\""

/-- The form of a comparison with a term. -/
def simpleForm (comparison : Comparison) (term : String) : String :=
  match comparison with
  | .contains => simplePhrase term
  | .starts => term ++ "*"
  | .fuzzy => term ++ "~1"
  | _ => term

/-- The simple text of a criterion. -/
def simpleText (criterion : Criterion) : Except SearchError String :=
  match criterion with
  | .compare comparison attr value =>
    if !simpleComparison comparison then
      .error (.unsupportedPart Parser.simple.target comparison.kind)
    else if !attr.isWildcard then
      .error (.unsupportedAttribute Parser.simple.target comparison.kind attr.path)
    else
      match value.term? with
      | none => .error (.unsupportedPart Parser.simple.target .value)
      | some term => .ok (simpleForm comparison term)
  | criterion => .error (.unsupportedPart Parser.simple.target criterion.kind)

end SearchGateway.CloudSearch
