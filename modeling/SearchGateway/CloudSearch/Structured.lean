import SearchGateway.Error
import SearchGateway.Query.Basic

/-!
# The structured query language

CloudSearch reads a main query in one of two languages: the structured language has every
combination of criteria, the simple language only words.

A criterion is compiled to an expression of the structured language, and the expression is
written down.  In an expression a field is its flat name, and the wildcard is no field at
all; a literal is an operand, which stands bare where it is a number compared with a numeric
or an undeclared field, and between apostrophes everywhere else.  Ranges need a field, and
there is no form for fuzzy matching.

The written forms are `(term field=title 'star')`, `(not term field=title 'star')`,
`(phrase …)`, `(prefix …)`, `(range field=year [1990,2000})` with square brackets where the
bound may be reached, `(and …)`, `(or …)` and `(not …)`.
-/
namespace SearchGateway.CloudSearch

/-- A query language of CloudSearch. -/
inductive Parser where
  | structured
  | simple
deriving DecidableEq, Repr, Inhabited

/-- The name of a language in a request. -/
def Parser.name : Parser → String
  | .structured => "structured"
  | .simple => "simple"

/-- The name of a language in a message. -/
def Parser.target : Parser → String
  | .structured => "cloudsearch"
  | .simple => "cloudsearch-simple"

/-- A literal in the structured language. -/
inductive Operand where
  | bare (term : String)
  | quoted (term : String)
deriving DecidableEq, Repr

/-- One side of a range: the bound, if there is one, and whether it may be reached. -/
structure RangeSide where
  included : Bool
  bound : Option Operand
deriving DecidableEq, Repr

/-- The side of a range that has no bound. -/
def RangeSide.unbounded : RangeSide := ⟨false, none⟩

/-- An expression of the structured language. -/
inductive Structured where
  | term (field : Option String) (operand : Operand)
  | notTerm (field : Option String) (operand : Operand)
  | phrase (field : Option String) (operand : Operand)
  | start (field : Option String) (operand : Operand)
  | range (field : String) (low high : RangeSide)
  | not (inner : Structured)
  | all (parts : List Structured)
  | any (parts : List Structured)
deriving Inhabited

/-- A character between apostrophes: a backslash stands before an apostrophe and before a
backslash. -/
def escapedOperandChar (c : Char) : List Char :=
  if c = '\x27' ∨ c = '\\' then ['\\', c] else [c]

/-- The written form of a literal. -/
def Operand.render : Operand → String
  | .bare term => term
  | .quoted term =>
    "'" ++ String.ofList (term.toList.flatMap escapedOperandChar) ++ "'"

/-- The written form of the bound of a range. -/
def RangeSide.render (side : RangeSide) : String := (side.bound.map Operand.render).getD ""

namespace Structured

/-- The written form of the field of a term or a phrase. -/
def fieldPart : Option String → String
  | none => ""
  | some field => "field=" ++ field ++ " "

mutual

/-- The written form of an expression. -/
def render : Structured → String
  | .term field operand => "(term " ++ fieldPart field ++ operand.render ++ ")"
  | .notTerm field operand => "(not term " ++ fieldPart field ++ operand.render ++ ")"
  | .phrase field operand => "(phrase " ++ fieldPart field ++ operand.render ++ ")"
  | .start field operand => "(prefix " ++ fieldPart field ++ operand.render ++ ")"
  | .range field low high =>
    "(range field=" ++ field ++ " " ++ (if low.included then "[" else "\x7b") ++
      low.render ++ "," ++ high.render ++ (if high.included then "]" else "\x7d") ++ ")"
  | .not inner => "(not " ++ inner.render ++ ")"
  | .all parts => "(and " ++ " ".intercalate (renderAll parts) ++ ")"
  | .any parts => "(or " ++ " ".intercalate (renderAll parts) ++ ")"

/-- The written forms of some expressions. -/
def renderAll : List Structured → List String
  | [] => []
  | part :: rest => part.render :: renderAll rest

end

end Structured

/-- The field of an expression; the wildcard is none. -/
def fieldOf (attr : Attribute) : Option String :=
  if attr.isWildcard then none else some attr.flatName

/-- The field of a range, which must not be the wildcard. -/
def concreteField (parser : Parser) (attr : Attribute) (part : PartKind) :
    Except SearchError String :=
  if attr.isWildcard then
    .error (.unsupportedAttribute parser.target part attr.path)
  else .ok attr.flatName

/-- Whether a literal is a number. -/
def isNumber : FieldValue → Bool
  | .integer _ | .double _ => true
  | _ => false

/-- The operand for a literal that is compared with an attribute. -/
def operand (parser : Parser) (schema : Schema) (attr : Attribute) (value : FieldValue) :
    Except SearchError Operand :=
  let declared := schema.fieldKind? attr.path
  let value := value.forKind declared
  match value.term? with
  | none => .error (.unsupportedPart parser.target .value)
  | some term =>
    .ok (if isNumber value && declared.all FieldKind.isNumeric then .bare term else .quoted term)

/-- The range of the values on one side of a literal. -/
def openRange (parser : Parser) (schema : Schema) (part : PartKind) (attr : Attribute)
    (value : FieldValue) (sides : RangeSide → RangeSide × RangeSide) (included : Bool) :
    Except SearchError Structured := do
  let field ← concreteField parser attr part
  let bound ← operand parser schema attr value
  let (low, high) := sides ⟨included, some bound⟩
  return .range field low high

/-- The range of the values above a literal. -/
def above (side : RangeSide) : RangeSide × RangeSide := (side, .unbounded)

/-- The range of the values below a literal. -/
def below (side : RangeSide) : RangeSide × RangeSide := (.unbounded, side)

/-- The expression for a comparison with one literal. -/
def compileComparison (parser : Parser) (schema : Schema) (comparison : Comparison)
    (attr : Attribute) (value : FieldValue) : Except SearchError Structured :=
  match comparison with
  | .equal => (operand parser schema attr value).map (.term (fieldOf attr))
  | .notEqual => (operand parser schema attr value).map (.notTerm (fieldOf attr))
  | .contains | .freeText => (operand parser schema attr value).map (.phrase (fieldOf attr))
  | .starts => (operand parser schema attr value).map (.start (fieldOf attr))
  | .greater => openRange parser schema comparison.kind attr value above false
  | .greaterEqual => openRange parser schema comparison.kind attr value above true
  | .less => openRange parser schema comparison.kind attr value below false
  | .lessEqual => openRange parser schema comparison.kind attr value below true
  | .fuzzy => .error (.unsupportedPart parser.target .fuzzy)

mutual

/-- The expression for a criterion.  The parser is the one of the main query, which errors
are reported for. -/
def compile (parser : Parser) (schema : Schema) : Criterion → Except SearchError Structured
  | .compare comparison attr value => compileComparison parser schema comparison attr value
  | .between bounds attr low high => do
    let field ← concreteField parser attr bounds.kind
    let low ← operand parser schema attr low
    let high ← operand parser schema attr high
    return .range field ⟨bounds.lowIncluded, some low⟩ ⟨bounds.highIncluded, some high⟩
  | .not criterion => (compile parser schema criterion).map .not
  | .all criteria => (compileAll parser schema criteria).map .all
  | .any criteria => (compileAll parser schema criteria).map .any

/-- The expressions for some criteria, up to the first that has none. -/
def compileAll (parser : Parser) (schema : Schema) :
    List Criterion → Except SearchError (List Structured)
  | [] => .ok []
  | criterion :: rest => do
    let part ← compile parser schema criterion
    let parts ← compileAll parser schema rest
    return part :: parts

end

/-- The structured text of a criterion. -/
def structuredText (parser : Parser) (schema : Schema) (criterion : Criterion) :
    Except SearchError String :=
  (compile parser schema criterion).map Structured.render

end SearchGateway.CloudSearch
