import Mathlib.Tactic.Lemma
import Mathlib.Tactic.MkIffOfInductiveProp
import SearchGateway.Elasticsearch.Body
import SearchGateway.Proofs.Obstacles

/-!
# What Elasticsearch has no form for

Every comparison has a form, and with any literal, but for two exceptions (`Expressible`).  Only
free text can be searched in any field, so every other comparison needs a field of its own; and a
pattern is written around a term, so that containment and beginnings need plain literals.  A
comparison that lacks a field is told as such, whatever its literal is.

Compiling a query succeeds exactly when all of its clauses are of this kind and its counts are whole
numbers that are not negative; a cursor may be anything.  Otherwise the error is that of the first
clause and of the first comparison in it that is not (`body_names_first_obstacle`).
-/
namespace SearchGateway.Elasticsearch

/-! ## Obstacles -/

/-- The kinds of comparisons that are written as patterns. -/
def patternKinds : List PartKind := [.contains, .starts]

/-- A comparison that has a form. -/
@[mk_iff]
structure Expressible (m : Mention) : Prop where
  ne_wildcard : m.container ≠ .freeText → m.attr ≠ .wildcard
  isPlain : m.container ∈ patternKinds → ∀ literal ∈ m.literals, literal.isPlain = true

/-- Why a comparison has no form. -/
@[mk_iff]
inductive Blocked (m : Mention) : SearchError → Prop
  /-- Something other than free text is looked for in any field. -/
  | wildcard (hkind : m.container ≠ .freeText) (hattr : m.attr = .wildcard) :
    Blocked m (.unsupportedAttribute target m.container m.attr.path)
  /-- There is no term to write a pattern around. -/
  | literal (hkind : m.container ∈ patternKinds) (hattr : m.attr ≠ .wildcard)
    (hliteral : ∃ literal ∈ m.literals, literal.isPlain = false) :
    Blocked m (.unsupportedPart target .value)

/-- A clause that has a fragment. -/
def ClauseExpressible : Clause → Prop
  | .matching criterion | .filter criterion => ∀ m ∈ criterion.mentions, Expressible m
  | .select _ | .order _ | .scrollCursor _ => True
  | .limit value | .offset value => ∃ n : Nat, value = .integer n

/-- Why a clause has no fragment. -/
def ClauseBlocked : Clause → SearchError → Prop
  | .matching criterion, e | .filter criterion, e =>
    FirstObstacle Expressible Blocked criterion.mentions e
  | .select _, _ | .order _, _ | .scrollCursor _, _ => False
  | .limit value, e => (¬ ∃ n : Nat, value = .integer n) ∧ e = .unsupportedPart target .limit
  | .offset value, e => (¬ ∃ n : Nat, value = .integer n) ∧ e = .unsupportedPart target .offset

/-! ## Criteria -/

variable (schema : Schema)

lemma characterized_concreteField (attr : Attribute) (part : PartKind) :
    Characterized (concreteField attr part) (attr ≠ .wildcard) fun e =>
      attr = .wildcard ∧ e = .unsupportedAttribute target part attr.path := by
  refine ((Characterized.ok attr.flatName).guard (c := attr.isWildcard = true)
    (SearchError.unsupportedAttribute target part attr.path)).congr ?_ fun e => ?_
  · simp [Attribute.isWildcard]
  · simp [Attribute.isWildcard]

lemma characterized_patternTerm (attr : Attribute) (value : FieldValue) :
    Characterized (patternTerm schema attr value) (value.isPlain = true) fun e =>
      value.isPlain = false ∧ e = .unsupportedPart target .value := by
  rw [← value.isPlain_forKind (schema.fieldKind? attr.path)]
  refine (typedLiteral schema attr value).characterized_of_term _
    (fun term h => ⟨term, ?_⟩) fun h => ?_
  · rw [patternTerm, h]
  · rw [patternTerm, h]

lemma characterized_compileComparison (comparison : Comparison) (attr : Attribute)
    (value : FieldValue) :
    Characterized (compileComparison schema comparison attr value)
      (Expressible ⟨attr, comparison.kind, [value]⟩)
      (Blocked ⟨attr, comparison.kind, [value]⟩) := by
  cases comparison with
  | freeText =>
    refine (Characterized.ok _).congr ?_ fun e => ?_
    · simp [expressible_iff, Comparison.kind, patternKinds]
    · simp [blocked_iff, Comparison.kind, patternKinds]
  | equal | notEqual | greater | greaterEqual | less | lessEqual | fuzzy =>
    refine ((characterized_concreteField attr _).map _).congr ?_ fun e => ?_
    · simp [expressible_iff, Comparison.kind, patternKinds]
    · simp [blocked_iff, Comparison.kind, patternKinds]
  | contains | starts =>
    refine ((characterized_concreteField attr _).bind fun _ =>
      (characterized_patternTerm schema attr value).bind_pure _).congr ?_ fun e => ?_
    · simp [expressible_iff, Comparison.kind, patternKinds]
    · simp [blocked_iff, Comparison.kind, patternKinds]

lemma characterized_compile_between (bounds : Bounds) (attr : Attribute) (low high : FieldValue) :
    Characterized (compile schema (.between bounds attr low high))
      (Expressible ⟨attr, bounds.kind, [low, high]⟩)
      (Blocked ⟨attr, bounds.kind, [low, high]⟩) := by
  have hkind : bounds.kind ≠ .freeText ∧ bounds.kind ∉ patternKinds := by
    rcases bounds with ⟨_ | _, _ | _⟩ <;> decide
  refine ((characterized_concreteField attr bounds.kind).map _).congr ?_ fun e => ?_
  · simp [expressible_iff, hkind]
  · simp [blocked_iff, hkind]

mutual

/-- A criterion has a form exactly when every comparison in it has one, and otherwise the first
comparison that has none is told. -/
theorem characterized_compile (criterion : Criterion) :
    Characterized (compile schema criterion) (∀ m ∈ criterion.mentions, Expressible m)
      (FirstObstacle Expressible Blocked criterion.mentions) := by
  cases criterion with
  | compare comparison attr value =>
    exact (characterized_compileComparison schema comparison attr value).singleton
  | between bounds attr low high =>
    exact (characterized_compile_between schema bounds attr low high).singleton
  | not criterion => exact (characterized_compile criterion).map _
  | all criteria => exact (characterized_compileAll criteria).map _
  | any criteria => exact (characterized_compileAll criteria).map _

/-- The same of some criteria. -/
theorem characterized_compileAll (criteria : List Criterion) :
    Characterized (compileAll schema criteria)
      (∀ m ∈ Criterion.mentionsAll criteria, Expressible m)
      (FirstObstacle Expressible Blocked (Criterion.mentionsAll criteria)) := by
  cases criteria with
  | nil => exact .nil _
  | cons criterion rest =>
    exact (characterized_compile criterion).append fun _ =>
      (characterized_compileAll rest).bind_pure _

end

/-! ## Queries -/

variable (keepAlive : String)

lemma characterized_countOf (value : FieldValue) (part : PartKind) :
    Characterized (countOf value part) (∃ n : Nat, value = .integer n) fun e =>
      (¬ ∃ n : Nat, value = .integer n) ∧ e = .unsupportedPart target part := by
  refine value.characterized_of_count _ (fun n h => ⟨n, ?_⟩) fun h => ?_
  · rw [countOf, h]
  · rw [countOf, h]

lemma characterized_fragment (clause : Clause) :
    Characterized (fragment keepAlive schema clause) (ClauseExpressible clause)
      (ClauseBlocked clause) := by
  cases clause with
  | matching criterion | filter criterion => exact (characterized_compile schema criterion).map _
  | select | order | scrollCursor => exact .ok _
  | limit value | offset value => exact (characterized_countOf value _).map _

theorem characterized_addAll (start : Json) (clauses : List Clause) :
    Characterized (addAll keepAlive schema start clauses)
      (∀ clause ∈ clauses, ClauseExpressible clause)
      (FirstObstacle ClauseExpressible ClauseBlocked clauses) := by
  induction clauses generalizing start with
  | nil => exact .nil start
  | cons clause rest ih =>
    exact (characterized_fragment schema keepAlive clause).cons fun part => ih (start.merge part)

/-- **A body names the first obstacle.**  Compiling a query succeeds exactly when every clause has a
fragment.  If it fails, it is with the error of the first clause that has none, and in the criterion
of this clause with that of the first comparison that has no form. -/
theorem body_names_first_obstacle (clauses : List Clause) :
    ((∃ json, body keepAlive schema clauses = .ok json) ↔
        ∀ clause ∈ clauses, ClauseExpressible clause) ∧
      ∀ e, body keepAlive schema clauses = .error e ↔
        FirstObstacle ClauseExpressible ClauseBlocked clauses e :=
  ⟨(characterized_addAll schema keepAlive (.obj .empty) clauses).ok_iff,
    (characterized_addAll schema keepAlive (.obj .empty) clauses).error_iff⟩

end SearchGateway.Elasticsearch
