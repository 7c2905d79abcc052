import Mathlib.Tactic.Lemma
import Mathlib.Tactic.MkIffOfInductiveProp
import SearchGateway.CloudSearch.Request
import SearchGateway.Proofs.Obstacles

/-!
# What CloudSearch has no form for

The structured language has a form for every comparison but a fuzzy one, except that a range needs
a field and that every literal must be plain (`Expressible`).  The simple language only has the five
comparisons that look for words, on the wildcard (`SimplyExpressible`).  A filter is written in the
structured language in any case.  Counts are whole numbers that are not negative, and a cursor is a
text.

Compiling a query succeeds exactly when all of its clauses are of this kind, and otherwise the error
is that of the first clause and of the first comparison in it that is not
(`request_names_first_obstacle`).  The schema has no say in this.
-/
namespace SearchGateway.CloudSearch

/-! ## Obstacles -/

/-- The kinds of comparisons that are written as ranges. -/
def rangeKinds : List PartKind :=
  [.greater, .less, .greaterEqual, .lessEqual, .greaterAndLess, .greaterEqualAndLess,
    .greaterAndLessEqual, .greaterEqualAndLessEqual]

/-- A comparison that has a structured form. -/
@[mk_iff]
structure Expressible (m : Mention) : Prop where
  ne_fuzzy : m.container ≠ .fuzzy
  ne_wildcard : m.container ∈ rangeKinds → m.attr ≠ .wildcard
  isPlain : ∀ literal ∈ m.literals, literal.isPlain = true

/-- Why a comparison has no structured form. -/
@[mk_iff]
inductive Blocked (parser : Parser) (m : Mention) : SearchError → Prop
  /-- The language does not look for words that are nearly the same. -/
  | fuzzy (hkind : m.container = .fuzzy) :
    Blocked parser m (.unsupportedPart parser.target .fuzzy)
  /-- A range has no field; its bounds are not looked at. -/
  | wildcard (hkind : m.container ∈ rangeKinds) (hattr : m.attr = .wildcard) :
    Blocked parser m (.unsupportedAttribute parser.target m.container m.attr.path)
  /-- A literal has no term. -/
  | literal (hkind : m.container ≠ .fuzzy) (hattr : m.container ∈ rangeKinds → m.attr ≠ .wildcard)
    (hliteral : ∃ literal ∈ m.literals, literal.isPlain = false) :
    Blocked parser m (.unsupportedPart parser.target .value)

/-- The comparisons that look for words. -/
def wordComparisons : List Comparison := [.equal, .freeText, .contains, .starts, .fuzzy]

/-- A criterion that has a simple form. -/
def SimplyExpressible (criterion : Criterion) : Prop :=
  ∃ comparison value, criterion = .compare comparison .wildcard value ∧
    comparison ∈ wordComparisons ∧ value.isPlain = true

/-- Why a criterion has no simple form. -/
inductive SimplyBlocked : Criterion → SearchError → Prop
  /-- The criterion does not look for words. -/
  | kind {criterion : Criterion}
    (h : ∀ comparison attr value, criterion = .compare comparison attr value →
      comparison ∉ wordComparisons) :
    SimplyBlocked criterion (.unsupportedPart Parser.simple.target criterion.kind)
  /-- Words are looked for in a single field. -/
  | field {comparison : Comparison} {attr : Attribute} {value : FieldValue}
    (hcomparison : comparison ∈ wordComparisons) (hattr : attr ≠ .wildcard) :
    SimplyBlocked (.compare comparison attr value)
      (.unsupportedAttribute Parser.simple.target comparison.kind attr.path)
  /-- The literal has no term. -/
  | literal {comparison : Comparison} {value : FieldValue}
    (hcomparison : comparison ∈ wordComparisons) (hvalue : value.isPlain = false) :
    SimplyBlocked (.compare comparison .wildcard value)
      (.unsupportedPart Parser.simple.target .value)

/-- A clause that has a part in a request. -/
def ClauseExpressible (parser : Parser) : Clause → Prop
  | .matching criterion =>
    match parser with
    | .structured => ∀ m ∈ criterion.mentions, Expressible m
    | .simple => SimplyExpressible criterion
  | .filter criterion => ∀ m ∈ criterion.mentions, Expressible m
  | .select _ | .order _ => True
  | .limit value | .offset value => ∃ n : Nat, value = .integer n
  | .scrollCursor value => ∃ cursor, value = .text cursor

/-- Why a clause has no part in a request. -/
def ClauseBlocked (parser : Parser) : Clause → SearchError → Prop
  | .matching criterion, e =>
    match parser with
    | .structured => FirstObstacle Expressible (Blocked parser) criterion.mentions e
    | .simple => SimplyBlocked criterion e
  | .filter criterion, e => FirstObstacle Expressible (Blocked parser) criterion.mentions e
  | .select _, _ | .order _, _ => False
  | .limit value, e =>
    (¬ ∃ n : Nat, value = .integer n) ∧ e = .unsupportedPart parser.target .limit
  | .offset value, e =>
    (¬ ∃ n : Nat, value = .integer n) ∧ e = .unsupportedPart parser.target .offset
  | .scrollCursor value, e =>
    (¬ ∃ cursor, value = .text cursor) ∧ e = .unsupportedPart parser.target .scrollCursor

/-! ## The structured language -/

variable (parser : Parser) (schema : Schema)

lemma characterized_concreteField (attr : Attribute) (part : PartKind) :
    Characterized (concreteField parser attr part) (attr ≠ .wildcard) fun e =>
      attr = .wildcard ∧ e = .unsupportedAttribute parser.target part attr.path := by
  refine ((Characterized.ok attr.flatName).guard (c := attr.isWildcard = true)
    (SearchError.unsupportedAttribute parser.target part attr.path)).congr ?_ fun e => ?_
  · simp [Attribute.isWildcard]
  · simp [Attribute.isWildcard]

lemma characterized_operand (attr : Attribute) (value : FieldValue) :
    Characterized (operand parser schema attr value) (value.isPlain = true) fun e =>
      value.isPlain = false ∧ e = .unsupportedPart parser.target .value := by
  rw [← value.isPlain_forKind (schema.fieldKind? attr.path)]
  exact FieldValue.characterized_of_term _ _ (fun term h => ⟨_, by rw [operand, h]⟩) fun h => by
    rw [operand, h]

lemma characterized_openRange (part : PartKind) (attr : Attribute) (value : FieldValue)
    (sides : RangeSide → RangeSide × RangeSide) (included : Bool) :
    Characterized (openRange parser schema part attr value sides included)
      (attr ≠ .wildcard ∧ value.isPlain = true) fun e =>
      (attr = .wildcard ∧ e = .unsupportedAttribute parser.target part attr.path) ∨
        attr ≠ .wildcard ∧ value.isPlain = false ∧ e = .unsupportedPart parser.target .value :=
  (characterized_concreteField parser attr part).bind fun _ =>
    (characterized_operand parser schema attr value).bind_pure _

lemma characterized_compileComparison (comparison : Comparison) (attr : Attribute)
    (value : FieldValue) :
    Characterized (compileComparison parser schema comparison attr value)
      (Expressible ⟨attr, comparison.kind, [value]⟩)
      (Blocked parser ⟨attr, comparison.kind, [value]⟩) := by
  cases comparison with
  | equal | notEqual | contains | freeText | starts =>
    refine ((characterized_operand parser schema attr value).map _).congr ?_ fun e => ?_
    · simp [expressible_iff, Comparison.kind, rangeKinds]
    · simp [blocked_iff, Comparison.kind, rangeKinds]
  | greater | greaterEqual | less | lessEqual =>
    rw [compileComparison]
    refine (characterized_openRange parser schema _ attr value _ _).congr ?_ fun e => ?_
    · simp [expressible_iff, Comparison.kind, rangeKinds]
    · simp [blocked_iff, Comparison.kind, rangeKinds]
  | fuzzy =>
    refine ⟨iff_of_false nofun fun h => h.ne_fuzzy rfl, fun e => ?_⟩
    rw [compileComparison, Except.error.injEq, eq_comm]
    simp [blocked_iff, Comparison.kind, rangeKinds]

lemma characterized_compile_between (bounds : Bounds) (attr : Attribute) (low high : FieldValue) :
    Characterized (compile parser schema (.between bounds attr low high))
      (Expressible ⟨attr, bounds.kind, [low, high]⟩)
      (Blocked parser ⟨attr, bounds.kind, [low, high]⟩) := by
  have hkind : bounds.kind ≠ .fuzzy ∧ bounds.kind ∈ rangeKinds := by
    rcases bounds with ⟨_ | _, _ | _⟩ <;> decide
  have hchain := (characterized_concreteField parser attr bounds.kind).bind fun field =>
    (characterized_operand parser schema attr low).bind fun lowBound =>
      (characterized_operand parser schema attr high).bind_pure fun highBound =>
        Structured.range field ⟨bounds.lowIncluded, some lowBound⟩
          ⟨bounds.highIncluded, some highBound⟩
  refine hchain.congr ?_ fun e => ?_
  · simp [expressible_iff, hkind]
  · -- the second bound is looked at only where the first one is plain
    cases hlow : low.isPlain <;> simp [blocked_iff, hkind, hlow]

mutual

/-- A criterion has a structured form exactly when every comparison in it has one, and otherwise the
first comparison that has none is told. -/
theorem characterized_compile (criterion : Criterion) :
    Characterized (compile parser schema criterion) (∀ m ∈ criterion.mentions, Expressible m)
      (FirstObstacle Expressible (Blocked parser) criterion.mentions) := by
  cases criterion with
  | compare comparison attr value =>
    exact (characterized_compileComparison parser schema comparison attr value).singleton
  | between bounds attr low high =>
    exact (characterized_compile_between parser schema bounds attr low high).singleton
  | not criterion => exact (characterized_compile criterion).map _
  | all criteria => exact (characterized_compileAll criteria).map _
  | any criteria => exact (characterized_compileAll criteria).map _

/-- The same of some criteria. -/
theorem characterized_compileAll (criteria : List Criterion) :
    Characterized (compileAll parser schema criteria)
      (∀ m ∈ Criterion.mentionsAll criteria, Expressible m)
      (FirstObstacle Expressible (Blocked parser) (Criterion.mentionsAll criteria)) := by
  cases criteria with
  | nil => exact .nil _
  | cons criterion rest =>
    exact (characterized_compile criterion).append fun _ =>
      (characterized_compileAll rest).bind_pure _

end

/-! ## The simple language -/

lemma simpleComparison_iff (comparison : Comparison) :
    simpleComparison comparison = true ↔ comparison ∈ wordComparisons := by
  cases comparison <;> decide

lemma simplyExpressible_compare_iff {comparison : Comparison} {attr : Attribute}
    {value : FieldValue} :
    SimplyExpressible (.compare comparison attr value) ↔
      comparison ∈ wordComparisons ∧ attr = .wildcard ∧ value.isPlain = true := by
  constructor
  · rintro ⟨_, _, h, hcomparison, hvalue⟩
    obtain ⟨rfl, rfl, rfl⟩ := Criterion.compare.inj h
    exact ⟨hcomparison, rfl, hvalue⟩
  · rintro ⟨hcomparison, rfl, hvalue⟩
    exact ⟨comparison, value, rfl, hcomparison, hvalue⟩

lemma simplyBlocked_compare_iff {comparison : Comparison} {attr : Attribute} {value : FieldValue}
    {e : SearchError} :
    SimplyBlocked (.compare comparison attr value) e ↔
      comparison ∉ wordComparisons ∧
          e = .unsupportedPart Parser.simple.target comparison.kind ∨
        comparison ∈ wordComparisons ∧
          (attr ≠ .wildcard ∧
              e = .unsupportedAttribute Parser.simple.target comparison.kind attr.path ∨
            attr = .wildcard ∧ value.isPlain = false ∧
              e = .unsupportedPart Parser.simple.target .value) := by
  constructor
  · intro h
    cases h with
    | kind h => exact .inl ⟨h comparison attr value rfl, rfl⟩
    | field hcomparison hattr => exact .inr ⟨hcomparison, .inl ⟨hattr, rfl⟩⟩
    | literal hcomparison hvalue => exact .inr ⟨hcomparison, .inr ⟨rfl, hvalue, rfl⟩⟩
  · rintro (⟨hcomparison, rfl⟩ | ⟨hcomparison, ⟨hattr, rfl⟩ | ⟨rfl, hvalue, rfl⟩⟩)
    · refine .kind fun other attr' value' h => ?_
      obtain ⟨rfl, -, -⟩ := Criterion.compare.inj h
      exact hcomparison
    · exact .field hcomparison hattr
    · exact .literal hcomparison hvalue

/-- A criterion that is no comparison with one literal does not look for words. -/
lemma characterized_of_ne_compare {criterion : Criterion} {x : Except SearchError String}
    (hne : ∀ comparison attr value, criterion ≠ .compare comparison attr value)
    (hx : x = .error (.unsupportedPart Parser.simple.target criterion.kind)) :
    Characterized x (SimplyExpressible criterion) (SimplyBlocked criterion) := by
  subst hx
  refine ⟨iff_of_false nofun fun ⟨_, _, h, _⟩ => hne _ _ _ h, fun e => ⟨?_, fun h => ?_⟩⟩
  · rintro ⟨⟩
    exact .kind fun comparison attr value h => absurd h (hne comparison attr value)
  · cases h with
    | kind => rfl
    | field | literal => exact absurd rfl (hne _ _ _)

lemma characterized_simpleText_compare (comparison : Comparison) (attr : Attribute)
    (value : FieldValue) :
    Characterized (simpleText (.compare comparison attr value))
      (SimplyExpressible (.compare comparison attr value))
      (SimplyBlocked (.compare comparison attr value)) := by
  rw [simpleText]
  refine (((value.characterized_of_term (.unsupportedPart Parser.simple.target .value)
    (fun term h => ⟨simpleForm comparison term, ?_⟩) fun h => ?_).guard _).guard _).congr
      ?_ fun e => ?_
  · rw [h]
  · rw [h]
  · simp [simplyExpressible_compare_iff, ← simpleComparison_iff, Attribute.isWildcard]
  · simp [simplyBlocked_compare_iff, ← simpleComparison_iff, Attribute.isWildcard]

lemma characterized_simpleText (criterion : Criterion) :
    Characterized (simpleText criterion) (SimplyExpressible criterion)
      (SimplyBlocked criterion) := by
  cases criterion with
  | compare comparison attr value => exact characterized_simpleText_compare comparison attr value
  | between | not | all | any => exact characterized_of_ne_compare nofun rfl

/-! ## Queries -/

lemma characterized_criterionText (criterion : Criterion) :
    Characterized (criterionText parser schema criterion)
      (ClauseExpressible parser (.matching criterion))
      (ClauseBlocked parser (.matching criterion)) := by
  cases parser with
  | structured => exact (characterized_compile .structured schema criterion).map _
  | simple => exact characterized_simpleText criterion

lemma characterized_cursorOf (value : FieldValue) :
    Characterized (cursorOf parser value) (ClauseExpressible parser (.scrollCursor value))
      (ClauseBlocked parser (.scrollCursor value)) := by
  refine .of_check Iff.rfl (fun ⟨cursor, hvalue⟩ => ⟨cursor, by rw [hvalue, cursorOf]⟩) fun h => ?_
  cases value with
  | text cursor => exact absurd ⟨cursor, rfl⟩ h
  | _ => rfl

lemma characterized_countOf (value : FieldValue) (part : PartKind) :
    Characterized (countOf parser value part) (∃ n : Nat, value = .integer n) fun e =>
      (¬ ∃ n : Nat, value = .integer n) ∧ e = .unsupportedPart parser.target part := by
  refine value.characterized_of_count _ (fun n h => ⟨n, ?_⟩) fun h => ?_
  · rw [countOf, h]
  · rw [countOf, h]

/-- Whether one more clause has a part does not depend on the clauses before it. -/
lemma characterized_add (r : Request) (clause : Clause) :
    Characterized (r.add parser schema clause) (ClauseExpressible parser clause)
      (ClauseBlocked parser clause) := by
  cases clause with
  | matching criterion => exact (characterized_criterionText parser schema criterion).map _
  | filter criterion => exact ((characterized_compile parser schema criterion).map _).map _
  | select | order => exact .ok _
  | limit value | offset value => exact (characterized_countOf parser value _).map _
  | scrollCursor value => exact (characterized_cursorOf parser value).map _

theorem characterized_addAll (r : Request) (clauses : List Clause) :
    Characterized (r.addAll parser schema clauses)
      (∀ clause ∈ clauses, ClauseExpressible parser clause)
      (FirstObstacle (ClauseExpressible parser) (ClauseBlocked parser) clauses) := by
  induction clauses generalizing r with
  | nil => exact .nil r
  | cons clause rest ih => exact (characterized_add parser schema r clause).cons ih

/-- **A request names the first obstacle.**  Compiling a query succeeds exactly when every clause
has a part in a request.  If it fails, it is with the error of the first clause that has none, and
in the criterion of this clause with that of the first comparison that has no form. -/
theorem request_names_first_obstacle (clauses : List Clause) :
    ((∃ r, request parser schema clauses = .ok r) ↔
        ∀ clause ∈ clauses, ClauseExpressible parser clause) ∧
      ∀ e, request parser schema clauses = .error e ↔
        FirstObstacle (ClauseExpressible parser) (ClauseBlocked parser) clauses e :=
  ⟨(characterized_addAll parser schema .empty clauses).ok_iff,
    (characterized_addAll parser schema .empty clauses).error_iff⟩

/-- The wildcard of a range is told, and neither its literal nor what comes after it. -/
example :
    request .simple ⟨[]⟩
      [.select [], .filter (.not (.all [.any [], .compare .less .wildcard .null,
        .compare .fuzzy .wildcard .null])), .limit .null] =
      .error (.unsupportedAttribute "cloudsearch-simple" .less "*") := rfl

end SearchGateway.CloudSearch
