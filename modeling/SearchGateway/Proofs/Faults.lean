import Mathlib.Data.List.Basic
import Mathlib.Tactic.Lemma
import SearchGateway.Query.Validation

/-!
# A validator reports exactly the faults

A query *mentions* attributes: it shows them, sorts by them or compares them with literals.
The mentions of a criterion are read off the tree from left to right, without a schema and
without a validator.  An attribute that the schema lacks is worth one message for each of its
mentions, and a literal that the schema refuses for the attribute it is compared with is worth
one message as well; nothing else is.

The walk of the validator adds the faults of the mentions to what it found before
(`checkCriterion_eq` for a step, `foldl_visit_eq` for a run over several visits).  Its flag
says whether there is a message at all (`Sound.failAll`).  The main statement is
`Validator.reports_exactly_the_faults`.
-/
namespace SearchGateway

namespace QueryErrors

@[simp] lemma get_empty (kind : PartKind) : empty.get kind = [] := rfl

lemma get_push (e : QueryErrors) (kind : PartKind) (message : String) (wanted : PartKind) :
    (e.push kind message).get wanted =
      if kind = wanted then e.get wanted ++ [message] else e.get wanted := by
  by_cases h : kind = wanted <;> simp [get, push, List.filter_append, h]

/-- The groups have all messages: leaving out the empty ones loses none. -/
lemma flatMap_groups (e : QueryErrors) :
    e.groups.flatMap Prod.snd = PartKind.all.flatMap e.get := by
  have (kinds : List PartKind) :
      ((kinds.map fun kind => (kind, e.get kind)).filter fun group => !group.2.isEmpty).flatMap
        Prod.snd = kinds.flatMap e.get := by
    induction kinds with
    | nil => rfl
    | cons kind rest ih =>
      rw [List.map_cons, List.filter_cons, List.flatMap_cons, ← ih]
      cases e.get kind <;> rfl
  exact this PartKind.all

end QueryErrors

/-- A place where a query mentions an attribute. -/
structure Mention where
  attr : Attribute
  /-- The kind of the part that the attribute stands in. -/
  container : PartKind
  /-- What the attribute is compared with there. -/
  literals : List FieldValue

mutual

/-- The mentions in a criterion, from left to right. -/
def Criterion.mentions : Criterion → List Mention
  | .compare comparison attr value => [⟨attr, comparison.kind, [value]⟩]
  | .between bounds attr low high => [⟨attr, bounds.kind, [low, high]⟩]
  | .not criterion => criterion.mentions
  | .all criteria => Criterion.mentionsAll criteria
  | .any criteria => Criterion.mentionsAll criteria

/-- The mentions in some criteria, one after the other. -/
def Criterion.mentionsAll : List Criterion → List Mention
  | [] => []
  | criterion :: rest => criterion.mentions ++ Criterion.mentionsAll rest

end

/-- The mentions in a clause. -/
def Clause.mentions : Clause → List Mention
  | .matching criterion => criterion.mentions
  | .filter criterion => criterion.mentions
  | .select attrs => attrs.map fun attr => ⟨attr, .select, []⟩
  | .order keys => keys.map fun key => ⟨key.attr, key.direction.kind, []⟩
  | .limit _ | .offset _ | .scrollCursor _ => []

/-- The mentions in a query, clause by clause. -/
def Query.mentions (q : Query) : List Mention := q.clauses.flatMap Clause.mentions

/-- The mentions in something that is validated. -/
def Visit.mentions : Visit → List Mention
  | .query q => q.mentions
  | .clause c => c.mentions
  | .criterion c => c.mentions

namespace Schema

/-- Whether an attribute has to be declared and is not. -/
def lacks (schema : Schema) (attr : Attribute) : Bool :=
  attr.path != "*" && attr.path != "_score" && (schema.resolve? attr.path).isNone

/-- What the schema declares at the path of an attribute, if that does not go together with a
literal. -/
def refusal? (schema : Schema) (attr : Attribute) (literal : FieldValue) : Option String :=
  match schema.resolve? attr.path with
  | some (.field type) => if type.kind.accepts literal then none else some type.kind.tag
  | some (.nested _) => some "struct"
  | none => none

/-- The messages about the attributes that the schema lacks. -/
def lackTexts (schema : Schema) (mentions : List Mention) : List String :=
  (mentions.filter fun m => schema.lacks m.attr).map fun m =>
    "Attribute '" ++ m.attr.path ++ "' in " ++ m.container.name ++ " missing from schema"

/-- The messages about the literals that the schema refuses. -/
def refusalTexts (schema : Schema) (mentions : List Mention) : List String :=
  mentions.flatMap fun m => m.literals.filterMap fun literal =>
    (schema.refusal? m.attr literal).map fun declared =>
      "Value " ++ literal.display ++ " for " ++ m.attr.path ++ " in " ++ m.container.name ++
        " is defined as " ++ declared ++ " type in schema"

/-! ### Faults of mentions -/

/-- The fault of naming an attribute that the schema lacks. -/
def lackFaults (schema : Schema) (m : Mention) : List Fault :=
  if schema.lacks m.attr then [.undeclared m.attr m.container] else []

/-- The fault of comparing an attribute with a literal that the schema refuses. -/
def refusalFaults (schema : Schema) (m : Mention) (literal : FieldValue) : List Fault :=
  ((schema.refusal? m.attr literal).map (.misfit literal m.attr m.container)).toList

/-- An attribute that the schema lacks is not reported again for what it is compared with. -/
lemma refusalFaults_of_lacks {schema : Schema} {m : Mention} (h : schema.lacks m.attr = true)
    (literal : FieldValue) : schema.refusalFaults m literal = [] := by
  have unresolved : schema.resolve? m.attr.path = none := by simp_all [lacks]
  simp [refusalFaults, refusal?, unresolved]

/-- The faults of some mentions. -/
def faults (schema : Schema) (mentions : List Mention) : List Fault :=
  mentions.flatMap fun m => schema.lackFaults m ++ m.literals.flatMap (schema.refusalFaults m)

lemma faults_append (schema : Schema) (first second : List Mention) :
    schema.faults (first ++ second) = schema.faults first ++ schema.faults second :=
  List.flatMap_append

end Schema

namespace Validator

variable (v : Validator)

/-- The validator after some faults. -/
def failAll (faults : List Fault) : Validator := faults.foldl fail v

@[simp] lemma failAll_nil : v.failAll [] = v := rfl

lemma failAll_append (first second : List Fault) :
    v.failAll (first ++ second) = (v.failAll first).failAll second := by
  simp [failAll]

@[simp] lemma schema_failAll (faults : List Fault) : (v.failAll faults).schema = v.schema := by
  induction faults generalizing v with
  | nil => rfl
  | cons fault rest ih => exact ih (v.fail fault)

/-! ### One step

Whatever the validator looks at, it adds the faults of what is mentioned there. -/

lemma checkAttribute_eq (m : Mention) :
    v.checkAttribute m.attr m.container =
      (!v.schema.lacks m.attr, v.failAll (v.schema.lackFaults m)) := by
  -- the two attributes that need no declaration are told by their paths
  have special : (m.attr.isWildcard || m.attr.isScore) =
      !(m.attr.path != "*" && m.attr.path != "_score") := by
    obtain ⟨⟨path⟩, _, _⟩ := m
    simp [Attribute.isWildcard, Attribute.isScore, Attribute.wildcard, Attribute.score, bne,
      BEq.beq]
  unfold checkAttribute Schema.lackFaults Schema.lacks
  rw [special]
  cases m.attr.path != "*" && m.attr.path != "_score" <;>
    cases v.schema.resolve? m.attr.path <;> rfl

lemma checkValue_eq (m : Mention) (literal : FieldValue) :
    v.checkValue literal m.attr m.container = v.failAll (v.schema.refusalFaults m literal) := by
  unfold checkValue Schema.refusalFaults Schema.refusal?
  rcases v.schema.resolve? m.attr.path with _ | type | inner
  · rfl
  · dsimp only
    cases type.kind.accepts literal <;> rfl
  · rfl

lemma foldl_checkValue_eq (m : Mention) (literals : List FieldValue) :
    literals.foldl (fun v literal => v.checkValue literal m.attr m.container) v =
      v.failAll (literals.flatMap (v.schema.refusalFaults m)) := by
  induction literals generalizing v with
  | nil => rfl
  | cons literal rest ih =>
    rw [List.foldl_cons, ih, checkValue_eq, schema_failAll, List.flatMap_cons, failAll_append]

/-- The literals are looked at only when the attribute is in order; but if it is not, the schema
refuses none of them. -/
lemma checkMention_eq (m : Mention) :
    (match v.checkAttribute m.attr m.container with
      | (true, v) => m.literals.foldl (fun v literal => v.checkValue literal m.attr m.container) v
      | (false, v) => v) = v.failAll (v.schema.faults [m]) := by
  rw [checkAttribute_eq, Schema.faults, List.flatMap_singleton, failAll_append]
  cases h : v.schema.lacks m.attr with
  | false => simp [foldl_checkValue_eq]
  | true =>
    -- the walk stops here, and the faults of the mention stop here as well
    have : m.literals.flatMap (v.schema.refusalFaults m) = [] :=
      List.flatMap_eq_nil_iff.mpr fun literal _ => Schema.refusalFaults_of_lacks h literal
    rw [this]
    rfl

/-- An attribute that is shown or sorted by is mentioned without literals. -/
lemma snd_checkAttribute_eq (attr : Attribute) (container : PartKind) :
    (v.checkAttribute attr container).2 = v.failAll (v.schema.faults [⟨attr, container, []⟩]) := by
  simp [v.checkAttribute_eq ⟨attr, container, []⟩, Schema.faults]

/-- If every step adds the faults of what it mentions, so do several. -/
lemma foldl_eq_failAll {α : Type} {step : Validator → α → Validator} {mentions : α → List Mention}
    (h : ∀ v a, step v a = v.failAll (v.schema.faults (mentions a))) (as : List α) :
    as.foldl step v = v.failAll (v.schema.faults (as.flatMap mentions)) := by
  induction as generalizing v with
  | nil => rfl
  | cons a as ih =>
    rw [List.foldl_cons, ih, h, schema_failAll, List.flatMap_cons, Schema.faults_append,
      failAll_append]

mutual

theorem checkCriterion_eq (v : Validator) (c : Criterion) :
    v.checkCriterion c = v.failAll (v.schema.faults c.mentions) := by
  cases c with
  | compare comparison attr value =>
    rw [checkCriterion, Criterion.mentions]
    exact v.checkMention_eq ⟨attr, comparison.kind, [value]⟩
  | between bounds attr low high =>
    rw [checkCriterion, Criterion.mentions]
    exact v.checkMention_eq ⟨attr, bounds.kind, [low, high]⟩
  | not c => exact checkCriterion_eq v c
  | all cs => exact checkCriteria_eq v cs
  | any cs => exact checkCriteria_eq v cs

theorem checkCriteria_eq (v : Validator) (cs : List Criterion) :
    v.checkCriteria cs = v.failAll (v.schema.faults (Criterion.mentionsAll cs)) := by
  cases cs with
  | nil => rfl
  | cons c cs =>
    rw [checkCriteria, checkCriteria_eq, checkCriterion_eq, schema_failAll,
      Criterion.mentionsAll, Schema.faults_append, failAll_append]

end

theorem checkClause_eq (clause : Clause) :
    v.checkClause clause = v.failAll (v.schema.faults clause.mentions) := by
  cases clause with
  | matching c => exact v.checkCriterion_eq c
  | filter c => exact v.checkCriterion_eq c
  | select attrs =>
    rw [checkClause, Clause.mentions, List.map_eq_flatMap]
    exact v.foldl_eq_failAll (fun v attr => v.snd_checkAttribute_eq attr .select) attrs
  | order keys =>
    rw [checkClause, Clause.mentions, List.map_eq_flatMap]
    exact v.foldl_eq_failAll (fun v key => v.snd_checkAttribute_eq key.attr key.direction.kind) keys
  | limit _ => rfl
  | offset _ => rfl
  | scrollCursor _ => rfl

theorem visit_eq (visited : Visit) :
    v.visit visited = v.failAll (v.schema.faults visited.mentions) := by
  cases visited with
  | query q => exact v.foldl_eq_failAll checkClause_eq q.clauses
  | clause clause => exact v.checkClause_eq clause
  | criterion c => exact v.checkCriterion_eq c

/-! ### A run -/

/-- Several visits add the faults of everything that is mentioned in them. -/
theorem foldl_visit_eq (visits : List Visit) :
    visits.foldl visit v = v.failAll (v.schema.faults (visits.flatMap Visit.mentions)) :=
  v.foldl_eq_failAll visit_eq visits

/-- The flag of a validator says whether there is a message. -/
def Sound : Prop := v.valid = v.errors.isEmpty

variable {v}

lemma sound_ofSchema (schema : Schema) : (ofSchema schema).Sound := rfl

lemma sound_fail (fault : Fault) : (v.fail fault).Sound := by
  simp [Sound, fail, QueryErrors.push, QueryErrors.isEmpty]

lemma Sound.failAll (h : v.Sound) (faults : List Fault) : (v.failAll faults).Sound := by
  induction faults generalizing v with
  | nil => exact h
  | cons fault rest ih => exact ih (sound_fail fault)

theorem Sound.foldl_visit (h : v.Sound) (visits : List Visit) : (visits.foldl visit v).Sound := by
  rw [foldl_visit_eq]
  exact h.failAll _

/-- The messages about the faults of one kind come after the ones that were there. -/
lemma get_errors_failAll (v : Validator) (faults : List Fault) (kind : PartKind) :
    (v.failAll faults).errors.get kind =
      v.errors.get kind ++ (faults.filter fun fault => fault.kind == kind).map Fault.message := by
  induction faults generalizing v with
  | nil => simp
  | cons fault rest ih =>
    have step : (v.fail fault).errors.get kind =
        v.errors.get kind ++ if fault.kind = kind then [fault.message] else [] := by
      rw [fail, QueryErrors.get_push]
      split <;> simp
    rw [failAll, List.foldl_cons, ← failAll, ih, step, List.filter_cons]
    by_cases h : fault.kind = kind <;> simp [h]

end Validator

/-! ### The messages -/

namespace Schema

variable {schema : Schema} {m : Mention} {literal : FieldValue} {fault : Fault}

lemma kind_of_mem_lackFaults (h : fault ∈ schema.lackFaults m) : fault.kind = .attr := by
  unfold lackFaults at h
  split at h <;> simp_all [Fault.kind]

lemma kind_of_mem_refusalFaults (h : fault ∈ schema.refusalFaults m literal) :
    fault.kind = .value := by
  simp only [refusalFaults, Option.mem_toList, Option.map_eq_some_iff] at h
  obtain ⟨declared, -, rfl⟩ := h
  rfl

variable (schema) (mentions : List Mention)

/-- Of faults that are all of one kind either all are of the wanted kind or none. -/
lemma filter_kind {faults : List Fault} {kind : PartKind} (h : ∀ fault ∈ faults, fault.kind = kind)
    (wanted : PartKind) :
    faults.filter (fun fault => fault.kind == wanted) = if wanted = kind then faults else [] := by
  split
  · rename_i same
    exact List.filter_eq_self.mpr fun fault hf => by simp [h fault hf, same]
  · rename_i other
    exact List.filter_eq_nil_iff.mpr fun fault hf => by simpa [h fault hf] using Ne.symm other

lemma filter_faults (kind : PartKind) :
    (schema.faults mentions).filter (fun fault => fault.kind == kind) =
      mentions.flatMap fun m =>
        (if kind = .attr then schema.lackFaults m else []) ++
          if kind = .value then m.literals.flatMap (schema.refusalFaults m) else [] := by
  rw [faults, List.filter_flatMap]
  refine List.flatMap_congr fun m _ => ?_
  have refusals : ∀ fault ∈ m.literals.flatMap (schema.refusalFaults m), fault.kind = .value := by
    intro fault hf
    obtain ⟨literal, -, hf⟩ := List.mem_flatMap.mp hf
    exact kind_of_mem_refusalFaults hf
  rw [List.filter_append, filter_kind (fun fault => kind_of_mem_lackFaults), filter_kind refusals]

lemma map_message_lackFaults :
    (mentions.flatMap schema.lackFaults).map Fault.message = schema.lackTexts mentions := by
  induction mentions with
  | nil => rfl
  | cons m rest ih =>
    rw [List.flatMap_cons, List.map_append, ih, lackTexts, lackTexts, List.filter_cons, lackFaults]
    split <;> rfl

lemma map_message_refusalFaults :
    (mentions.flatMap fun m => m.literals.flatMap (schema.refusalFaults m)).map Fault.message =
      schema.refusalTexts mentions := by
  rw [List.map_flatMap, refusalTexts]
  refine List.flatMap_congr fun m _ => ?_
  rw [List.map_flatMap, List.filterMap_eq_flatMap_toList]
  refine List.flatMap_congr fun literal _ => ?_
  rw [refusalFaults]
  cases schema.refusal? m.attr literal <;> rfl

end Schema

/-- What is reported when the faults of some mentions are reported and nothing else is. -/
structure QueryErrors.Report (schema : Schema) (mentions : List Mention) (errors : QueryErrors) :
    Prop where
  attrs : errors.get .attr = schema.lackTexts mentions
  values : errors.get .value = schema.refusalTexts mentions
  others : ∀ kind, kind ≠ .attr → kind ≠ .value → errors.get kind = []

/-- On one line stand the attributes that are missing, and after them the literals that do not
fit. -/
lemma QueryErrors.Report.text_eq {schema : Schema} {mentions : List Mention} {errors : QueryErrors}
    (report : Report schema mentions errors) :
    errors.text =
      "; ".intercalate (schema.lackTexts mentions ++ schema.refusalTexts mentions) := by
  have rest : (PartKind.all.drop 2).flatMap errors.get = [] :=
    List.flatMap_eq_nil_iff.mpr fun kind hk =>
      report.others kind (by rintro rfl; revert hk; decide) (by rintro rfl; revert hk; decide)
  have all : PartKind.all = .attr :: .value :: PartKind.all.drop 2 := rfl
  rw [QueryErrors.text, QueryErrors.flatMap_groups, all, List.flatMap_cons, List.flatMap_cons, rest,
    List.append_nil, report.attrs, report.values]

namespace Validator

open QueryErrors (Report)

lemma report_failAll (schema : Schema) (mentions : List Mention) :
    Report schema mentions ((ofSchema schema).failAll (schema.faults mentions)).errors := by
  constructor
  · simp [get_errors_failAll, ofSchema, Schema.filter_faults, Schema.map_message_lackFaults]
  · simp [get_errors_failAll, ofSchema, Schema.filter_faults, Schema.map_message_refusalFaults]
  · intro kind attr value
    simp [get_errors_failAll, ofSchema, Schema.filter_faults, attr, value]

/-- What a validator reports after several visits. -/
theorem report_foldl_visit (schema : Schema) (visits : List Visit) :
    Report schema (visits.flatMap Visit.mentions)
      (visits.foldl visit (ofSchema schema)).errors := by
  rw [foldl_visit_eq]
  exact report_failAll schema _

end Validator

namespace Query

open QueryErrors (Report)

variable (q : Query)

lemma report_validate : Report q.index.schema q.mentions q.validate.2.errors := by
  have := Validator.report_foldl_visit q.index.schema [.query q]
  rwa [List.flatMap_singleton] at this

/-- The answer of a validation says whether there is a message. -/
lemma validate_iff_isEmpty : q.validate.1 = true ↔ q.validate.2.errors.isEmpty = true := by
  have : ((Validator.ofSchema q.index.schema).visit (.query q)).Sound :=
    (Validator.sound_ofSchema q.index.schema).foldl_visit [.query q]
  exact iff_of_eq (congrArg (· = true) this)

lemma ensureValid_eq :
    q.ensureValid =
      if q.validate.1 then .ok () else .error (.invalidQuery q.validate.2.errors) := by
  unfold ensureValid
  rcases q.validate with ⟨_ | _, after⟩ <;> rfl

lemma message_invalidQuery :
    (SearchError.invalidQuery q.validate.2.errors).message =
      "Query failed schema validation: " ++ "; ".intercalate
        (q.index.schema.lackTexts q.mentions ++ q.index.schema.refusalTexts q.mentions) := by
  rw [← q.report_validate.text_eq]
  rfl

end Query

open QueryErrors (Report)

/-- **A validator reports exactly the faults.**  After any visits there is one message for every
mention of an attribute that the schema lacks and one for every literal that the schema refuses,
in the order of the visits, and there are no others; a query is answered with whether there is
no message yet, from whichever visit.  A validation on its own replaces what earlier ones left
behind and touches nothing else, and it fails with all of its messages on one line. -/
theorem Validator.reports_exactly_the_faults (schema : Schema) (visits : List Visit) :
    let v := visits.foldl Validator.visit (Validator.ofSchema schema)
    Report schema (visits.flatMap Visit.mentions) v.errors ∧
      (∀ q : Query,
        Report schema (visits.flatMap Visit.mentions ++ q.mentions) (v.checkQuery q).2.errors ∧
          ((v.checkQuery q).1 = true ↔ (v.checkQuery q).2.errors.isEmpty = true)) ∧
      ∀ q : Query,
        Report q.index.schema q.mentions q.validate.2.errors ∧
          (q.validate.1 = true ↔ q.validate.2.errors.isEmpty = true) ∧
          (∀ earlier, ({ q with errors := earlier } : Query).validate = q.validate) ∧
          q.validate.2.index = q.index ∧ q.validate.2.clauses = q.clauses ∧
          q.ensureValid =
            (if q.validate.1 then .ok () else .error (.invalidQuery q.validate.2.errors)) ∧
          (SearchError.invalidQuery q.validate.2.errors).message =
            "Query failed schema validation: " ++ "; ".intercalate
              (q.index.schema.lackTexts q.mentions ++ q.index.schema.refusalTexts q.mentions) := by
  intro v
  refine ⟨report_foldl_visit schema visits, fun q => ⟨?_, ?_⟩, fun q => ?_⟩
  · have := report_foldl_visit schema (visits ++ [.query q])
    rwa [List.flatMap_append, List.flatMap_singleton, List.foldl_concat] at this
  · have : (v.visit (.query q)).Sound :=
      ((sound_ofSchema schema).foldl_visit visits).foldl_visit [.query q]
    exact iff_of_eq (congrArg (· = true) this)
  · exact ⟨q.report_validate, q.validate_iff_isEmpty, fun _ => rfl, rfl, rfl, q.ensureValid_eq,
      q.message_invalidQuery⟩

end SearchGateway
