import Mathlib.Tactic.Lemma
import SearchGateway.CloudSearch.Simple
import SearchGateway.Elasticsearch.Criteria
import SearchGateway.Proofs.Faults
import SearchGateway.Proofs.FieldDefinitions
import SearchGateway.Proofs.Meaning
import SearchGateway.Proofs.Numerals
import SearchGateway.Proofs.TimestampTexts

/-!
# What a valid query can count on

A query that fits the schema of its index compares fields only with literals that suit them.  The
compilers look at the schema again, each in its own way: for the name of the field, for whether a
number may stand bare, for whether a text is to be read as a date.  Nothing of this can go wrong
for a valid query (`comparison_fits_schema`).  Wherever in its criteria a field is compared, the
schema declares the field with a type of values, both engines have a definition of the field that
is written, the literals stand bare exactly on numeric fields, and on a field of dates nothing is
written but the timestamps in universal time of the dates that are meant.

The compiled forms are read here by two views, one for each engine, that give the field of a
comparison and what it is compared with.
-/
namespace SearchGateway

/-! ## Dates in literals -/

namespace FieldValue

open Calendar (Instant Timestamp.format Timestamp.parse?)

/-- The instant that a literal denotes: a date, or a text that is a timestamp. -/
def instant? : FieldValue → Option Instant
  | .date instant => some instant
  | .text value => Timestamp.parse? value
  | _ => none

/-- The timestamp in universal time of the instant that a literal denotes. -/
def utcText? (literal : FieldValue) : Option String := literal.instant?.map Timestamp.format

/-- The same in JSON; of a list every item is a date. -/
def utcJson? : FieldValue → Option Json
  | .list items => (items.mapM utcText?).map fun texts => .arr (texts.map .str)
  | literal => literal.utcText?.map .str

variable {literal : FieldValue}

lemma exists_instant_of_dateLike (h : FieldKind.dateLike literal = true) :
    ∃ instant, literal.instant? = some instant ∧ literal.asDate = .date instant := by
  cases literal with
  | date instant => exact ⟨instant, rfl, rfl⟩
  | text value =>
    obtain ⟨instant, hparse⟩ := Option.isSome_iff_exists.1 h
    refine ⟨instant, hparse, ?_⟩
    rw [asDate, hparse]
  | _ => exact absurd h (by simp [FieldKind.dateLike])

lemma utcText?_of_dateLike (h : FieldKind.dateLike literal = true) :
    ∃ text, literal.utcText? = some text ∧ literal.asDate.toJson = .str text ∧
      literal.asDate.term? = some text := by
  obtain ⟨instant, hinstant, hdate⟩ := exists_instant_of_dateLike h
  refine ⟨Timestamp.format instant, ?_, ?_, ?_⟩
  · rw [utcText?, hinstant, Option.map_some]
  · rw [hdate, toJson]
  · rw [hdate, term?]

lemma mapM_utcText? {items : List FieldValue} (h : items.all FieldKind.dateLike = true) :
    ∃ texts, items.mapM utcText? = some texts ∧
      itemsToJson (itemsAsDates items) = texts.map .str := by
  induction items with
  | nil => exact ⟨[], rfl, rfl⟩
  | cons item rest ih =>
    rw [List.all_cons, Bool.and_eq_true] at h
    obtain ⟨text, htext, hjson, -⟩ := utcText?_of_dateLike h.1
    obtain ⟨texts, htexts, hrest⟩ := ih h.2
    refine ⟨text :: texts, ?_, ?_⟩
    · simp [htext, htexts]
    · rw [itemsAsDates, itemsToJson, hjson, hrest, List.map_cons]

/-- What a field of dates accepts is a date or, where the field holds many, a list of dates. -/
lemma dateLike_or_list_of_accepts {kind : FieldKind} (hkind : kind.isDate = true)
    (h : kind.accepts literal = true) :
    FieldKind.dateLike literal = true ∨
      ∃ items, literal = .list items ∧ items.all FieldKind.dateLike = true := by
  cases kind with
  | date => exact .inl h
  | dateArray =>
    cases literal with
    | list items => exact .inr ⟨items, rfl, h⟩
    | _ => exact .inl h
  | _ => exact absurd hkind (by decide)

/-- On a field of dates a literal is written as JSON in universal time. -/
lemma utcJson?_of_accepts {kind : FieldKind} (hkind : kind.isDate = true)
    (h : kind.accepts literal = true) : literal.utcJson? = some literal.asDate.toJson := by
  rcases dateLike_or_list_of_accepts hkind h with hdate | ⟨items, rfl, hdates⟩
  · obtain ⟨text, htext, hjson, -⟩ := utcText?_of_dateLike hdate
    have hplain : literal.utcJson? = literal.utcText?.map .str := by
      cases literal with
      | list items => exact absurd hdate (by simp [FieldKind.dateLike])
      | _ => rfl
    rw [hplain, htext, hjson, Option.map_some]
  · obtain ⟨texts, htexts, hjson⟩ := mapM_utcText? hdates
    rw [utcJson?, htexts, asDate, toJson, hjson, Option.map_some]

/-- On a field of dates the term of a literal is a timestamp in universal time; a list has no
term. -/
lemma term?_asDate_of_accepts {kind : FieldKind} (hkind : kind.isDate = true)
    (h : kind.accepts literal = true) : literal.asDate.term? = literal.utcText? := by
  rcases dateLike_or_list_of_accepts hkind h with hdate | ⟨items, rfl, -⟩
  · obtain ⟨text, htext, -, hterm⟩ := utcText?_of_dateLike hdate
    rw [hterm, htext]
  · rfl

end FieldValue

/-! ## Comparisons in a query -/

namespace Criterion

/-- A criterion and the criteria inside it. -/
inductive Within : Criterion → Criterion → Prop
  | self (criterion : Criterion) : Within criterion criterion
  | not {inner c : Criterion} (h : Within inner c) : Within (.not inner) c
  | all {criteria : List Criterion} {criterion c : Criterion} (hmem : criterion ∈ criteria)
      (h : Within criterion c) : Within (.all criteria) c
  | any {criteria : List Criterion} {criterion c : Criterion} (hmem : criterion ∈ criteria)
      (h : Within criterion c) : Within (.any criteria) c

/-- What a criterion that compares a field mentions; other criteria combine such ones. -/
def mention? : Criterion → Option Mention
  | .compare comparison attr value => some ⟨attr, comparison.kind, [value]⟩
  | .between bounds attr low high => some ⟨attr, bounds.kind, [low, high]⟩
  | _ => none

lemma mentions_of_mention? {c : Criterion} {m : Mention} (h : c.mention? = some m) :
    c.mentions = [m] := by
  cases c with
  | compare | between =>
    obtain rfl := Option.some.inj h
    rfl
  | _ => exact nomatch h

lemma literals_ne_nil_of_mention? {c : Criterion} {m : Mention} (h : c.mention? = some m) :
    m.literals ≠ [] := by
  cases c with
  | compare | between =>
    obtain rfl := Option.some.inj h
    exact List.cons_ne_nil _ _
  | _ => exact nomatch h

lemma mem_mentionsAll {criteria : List Criterion} {criterion : Criterion} {m : Mention}
    (hmem : criterion ∈ criteria) (h : m ∈ criterion.mentions) : m ∈ mentionsAll criteria := by
  induction criteria with
  | nil => exact absurd hmem List.not_mem_nil
  | cons first rest ih =>
    rw [mentionsAll, List.mem_append]
    rcases List.mem_cons.1 hmem with rfl | hmem
    · exact .inl h
    · exact .inr (ih hmem)

/-- What a criterion mentions, every criterion around it mentions. -/
lemma Within.mem_mentions {tree c : Criterion} (h : Within tree c) {m : Mention}
    (hm : m ∈ c.mentions) : m ∈ tree.mentions := by
  induction h with
  | self => exact hm
  | not _ ih => exact ih hm
  | all hmem _ ih | any hmem _ ih => exact mem_mentionsAll hmem (ih hm)

end Criterion

/-- The criteria of a query: what its hits match, with or without being ranked by it. -/
def Query.trees (q : Query) : List Criterion :=
  q.clauses.filterMap fun
    | .matching tree | .filter tree => some tree
    | _ => none

lemma Query.mem_mentions {q : Query} {tree c : Criterion} {m : Mention} (htree : tree ∈ q.trees)
    (hwithin : tree.Within c) (hm : c.mention? = some m) : m ∈ q.mentions := by
  have hmem : m ∈ tree.mentions := by
    refine hwithin.mem_mentions ?_
    rw [Criterion.mentions_of_mention? hm]
    exact List.mem_singleton_self m
  obtain ⟨clause, hclause, htree⟩ := List.mem_filterMap.1 htree
  refine List.mem_flatMap.2 ⟨clause, hclause, ?_⟩
  cases clause with
  | matching | filter =>
    obtain rfl := Option.some.inj htree
    exact hmem
  | _ => exact nomatch htree

/-! ## What validation guarantees -/

/-- What a schema has to say about a comparison that it has no fault to find with. -/
structure Schema.Fits (schema : Schema) (m : Mention) (type : FieldType) : Prop where
  fieldType?_eq : schema.fieldType? m.attr.path = some type
  accepts : ∀ literal ∈ m.literals, type.kind.accepts literal = true

namespace Schema.Fits

variable {schema : Schema} {m : Mention} {type : FieldType}

lemma fieldKind?_eq (h : schema.Fits m type) :
    schema.fieldKind? m.attr.path = some type.kind := by
  rw [fieldKind?, h.fieldType?_eq, Option.map_some]

/-- Structured fields accept no literal. -/
lemma kind_ne_struct (h : schema.Fits m type) (hne : m.literals ≠ []) : type.kind ≠ .struct := by
  intro hstruct
  obtain ⟨literal, rest, hliterals⟩ := List.exists_cons_of_ne_nil hne
  have haccepts := h.accepts literal (by simp [hliterals])
  rw [hstruct] at haccepts
  simp [FieldKind.accepts] at haccepts

end Schema.Fits

lemma QueryErrors.get_of_isEmpty {errors : QueryErrors} (h : errors.isEmpty = true)
    (kind : PartKind) : errors.get kind = [] := by
  obtain ⟨found⟩ := errors
  obtain rfl : found = [] := List.isEmpty_iff.1 h
  rfl

namespace Query

variable {q : Query} {m : Mention}

lemma lacks_eq_false_of_valid (hvalid : q.validate.1 = true) (hm : m ∈ q.mentions) :
    q.index.schema.lacks m.attr = false := by
  have htexts := q.report_validate.attrs.symm.trans
    (QueryErrors.get_of_isEmpty (q.validate_iff_isEmpty.1 hvalid) _)
  rw [Schema.lackTexts, List.map_eq_nil_iff, List.filter_eq_nil_iff] at htexts
  simpa using htexts m hm

lemma refusal?_eq_none_of_valid (hvalid : q.validate.1 = true) (hm : m ∈ q.mentions)
    {literal : FieldValue} (hliteral : literal ∈ m.literals) :
    q.index.schema.refusal? m.attr literal = none := by
  have htexts := q.report_validate.values.symm.trans
    (QueryErrors.get_of_isEmpty (q.validate_iff_isEmpty.1 hvalid) _)
  rw [Schema.refusalTexts, List.flatMap_eq_nil_iff] at htexts
  have hliterals := List.filterMap_eq_nil_iff.1 (htexts m hm) literal hliteral
  exact Option.map_eq_none_iff.1 hliterals

/-- A valid query compares a field only with literals that suit it. -/
theorem exists_fits_of_valid (hvalid : q.validate.1 = true) (hm : m ∈ q.mentions)
    (hwildcard : m.attr ≠ .wildcard) (hscore : m.attr ≠ .score) (hne : m.literals ≠ []) :
    ∃ type, q.index.schema.Fits m type := by
  have hlacks := lacks_eq_false_of_valid hvalid hm
  have hpath : m.attr.path ≠ "*" ∧ m.attr.path ≠ "_score" :=
    ⟨fun h => hwildcard (congrArg Attribute.mk h), fun h => hscore (congrArg Attribute.mk h)⟩
  rcases hresolve : q.index.schema.resolve? m.attr.path with _ | type | inner
  · simp [Schema.lacks, hresolve, hpath] at hlacks
  · refine ⟨type, ?_, fun literal hliteral => ?_⟩
    · rw [Schema.fieldType?, hresolve]
    · simpa [Schema.refusal?, hresolve] using refusal?_eq_none_of_valid hvalid hm hliteral
  · -- a nested schema refuses every literal, and there is one
    obtain ⟨literal, rest, hliterals⟩ := List.exists_cons_of_ne_nil hne
    have hliteral : literal ∈ m.literals := by simp [hliterals]
    have hnested := refusal?_eq_none_of_valid hvalid hm hliteral
    simp [Schema.refusal?, hresolve] at hnested

end Query

/-! ## What CloudSearch is sent -/

namespace CloudSearch

open FieldValue (utcText?)

/-- The field of an expression that compares a field, and the operands it is compared with. -/
def Structured.comparison? : Structured → Option (Option String × List Operand)
  | .term field operand | .notTerm field operand => some (field, [operand])
  | .phrase field operand | .start field operand => some (field, [operand])
  | .range field low high => some (some field, low.bound.toList ++ high.bound.toList)
  | _ => none

/-- The operand of a literal that is compared with a field of a kind: a number stands bare and
everything else between apostrophes, and a date is its timestamp in universal time. -/
def declaredOperand? (kind : FieldKind) (literal : FieldValue) : Option Operand :=
  (if kind.isDate then literal.utcText? else literal.term?).map fun term =>
    if kind = .integer ∨ kind = .double then .bare term else .quoted term

variable {parser : Parser} {schema : Schema} {m : Mention} {type : FieldType}

lemma declaredOperand?_of_operand (hfits : schema.Fits m type) {literal : FieldValue}
    (hliteral : literal ∈ m.literals) {o : Operand}
    (h : operand parser schema m.attr literal = .ok o) :
    declaredOperand? type.kind literal = some o := by
  have haccepts := hfits.accepts literal hliteral
  rw [operand, hfits.fieldKind?_eq] at h
  have hterm : (literal.forKind (some type.kind)).term? =
      if type.kind.isDate then literal.utcText? else literal.term? := by
    rw [FieldValue.forKind]
    split
    next hdate => exact FieldValue.term?_asDate_of_accepts hdate haccepts
    next => rfl
  -- what a numeric field accepts is a number
  have hbare : (isNumber (literal.forKind (some type.kind)) &&
      (some type.kind).all FieldKind.isNumeric) =
        decide (type.kind = .integer ∨ type.kind = .double) := by
    revert haccepts
    cases type.kind <;> cases literal <;>
      simp [FieldKind.accepts, FieldKind.textLike, FieldKind.dateLike, FieldValue.forKind, isNumber,
        FieldKind.isDate, FieldKind.isNumeric]
  rw [hterm, hbare] at h
  split at h
  · cases h
  next term hsome =>
    rw [declaredOperand?, hsome, Option.map_some, ← Except.ok.inj h]
    simp

/-- The expression for a comparison has its field and one operand for each literal. -/
lemma exists_operands_of_compile {c : Criterion} (hm : c.mention? = some m) {e : Structured}
    (h : compile parser schema c = .ok e) :
    ∃ operands, e.comparison? = some (fieldOf m.attr, operands) ∧
      List.Forall₂ (fun literal o => operand parser schema m.attr literal = .ok o)
        m.literals operands := by
  cases c with
  | compare comparison attr value =>
    obtain rfl := Option.some.inj hm
    have hsingle : ∀ {o}, operand parser schema attr value = .ok o →
        List.Forall₂ (fun literal o => operand parser schema attr literal = .ok o) [value] [o] :=
      fun ho => .cons ho .nil
    cases comparison with
    | equal | notEqual | contains | freeText | starts =>
      obtain ⟨o, ho, rfl⟩ := exists_of_map_eq_ok h
      exact ⟨[o], rfl, hsingle ho⟩
    | greater | greaterEqual | less | lessEqual =>
      rw [compile, compileComparison] at h
      obtain ⟨field, o, hfield, ho, rfl⟩ := exists_of_openRange h
      exact ⟨[o], by rw [hfield]; rfl, hsingle ho⟩
    | fuzzy => cases h
  | between bounds attr low high =>
    obtain rfl := Option.some.inj hm
    obtain ⟨field, lowBound, highBound, hfield, hlow, hhigh, rfl⟩ := exists_of_compile_between h
    exact ⟨[lowBound, highBound], by rw [hfield]; rfl, .cons hlow (.cons hhigh .nil)⟩
  | _ => cases hm

/-- The operands of a comparison are as the type of the field declares them. -/
lemma exists_declared_operands (hfits : schema.Fits m type) (hwildcard : m.attr ≠ .wildcard)
    {c : Criterion} (hm : c.mention? = some m) {e : Structured}
    (h : compile parser schema c = .ok e) :
    ∃ operands, e.comparison? = some (some m.attr.flatName, operands) ∧
      m.literals.map (declaredOperand? type.kind) = operands.map some := by
  obtain ⟨operands, hcomparison, hoperands⟩ := exists_operands_of_compile hm h
  have hfield : fieldOf m.attr = some m.attr.flatName := by
    rw [fieldOf, if_neg (by simpa [Attribute.isWildcard] using hwildcard)]
  refine ⟨operands, hfield ▸ hcomparison, ?_⟩
  -- each operand stands for the literal at its place
  have hall : ∀ literals, (∀ literal ∈ literals, literal ∈ m.literals) → ∀ {operands},
      List.Forall₂ (fun literal o => operand parser schema m.attr literal = .ok o)
        literals operands →
      literals.map (declaredOperand? type.kind) = operands.map some := by
    intro literals hsub operands hoperands
    induction hoperands with
    | nil => rfl
    | cons ho _ ih =>
      obtain ⟨hfirst, hrest⟩ := List.forall_mem_cons.1 hsub
      rw [List.map_cons, List.map_cons, declaredOperand?_of_operand hfits hfirst ho, ih hrest]
  exact hall m.literals (fun _ => id) hoperands

/-- The simple language has no form for a comparison of a field. -/
lemma simpleText_ne_ok {c : Criterion} (hm : c.mention? = some m) (hwildcard : m.attr ≠ .wildcard)
    (text : String) : simpleText c ≠ .ok text := by
  cases c with
  | compare comparison attr value =>
    obtain rfl := Option.some.inj hm
    have hattr : attr.isWildcard = false := by simpa [Attribute.isWildcard] using hwildcard
    rw [simpleText, hattr]
    split <;> simp
  | between => simp [simpleText]
  | _ => cases hm

/-! ### Timestamps between apostrophes -/

open Calendar in
lemma escapedOperandChar_of_mem_padded {width n : Nat} {c : Char}
    (h : c ∈ Timestamp.padded width n) : escapedOperandChar c = [c] := by
  have hnumeral : Decimal.isNumeralChar c = true :=
    Decimal.isNumeralChar_of_isDigit (Timestamp.isDigit_of_mem_padded h)
  refine if_neg ?_
  rintro (rfl | rfl) <;> exact absurd hnumeral (by decide)

open Calendar in
lemma escapedOperandChar_of_mem_formatChars (instant : Instant) :
    ∀ c ∈ Timestamp.formatChars instant, escapedOperandChar c = [c] := by
  have hpadded : ∀ width n, ∀ c ∈ Timestamp.padded width n, escapedOperandChar c = [c] :=
    fun _ _ _ => escapedOperandChar_of_mem_padded
  have hyear : ∀ c ∈ Timestamp.yearChars instant.date.year, escapedOperandChar c = [c] := by
    rw [Timestamp.yearChars]
    split
    · exact hpadded _ _
    · refine List.forall_mem_cons.2 ⟨?_, hpadded _ _⟩
      split <;> rfl
  simp only [Timestamp.formatChars, List.forall_mem_append, List.forall_mem_cons]
  refine ⟨⟨⟨⟨⟨⟨hyear, ?_, hpadded _ _⟩, ?_, hpadded _ _⟩, ?_, hpadded _ _⟩, ?_, hpadded _ _⟩, ?_,
    hpadded _ _⟩, ?_, by simp⟩
  all_goals rfl

/-- Nothing in a timestamp is escaped. -/
lemma render_quoted_format (instant : Calendar.Instant) :
    (Operand.quoted (Calendar.Timestamp.format instant)).render =
      "'" ++ Calendar.Timestamp.format instant ++ "'" := by
  rw [Operand.render, Calendar.Timestamp.format, String.toList_ofList,
    List.flatMap_congr (escapedOperandChar_of_mem_formatChars instant), List.flatMap_singleton']

/-- On a field of dates an operand is written as a timestamp between apostrophes. -/
lemma render_of_declaredOperand? {kind : FieldKind} (hkind : kind.isDate = true)
    {literal : FieldValue} {o : Operand} (h : declaredOperand? kind literal = some o) :
    (utcText? literal).map (fun text => "'" ++ text ++ "'") = some o.render := by
  rw [declaredOperand?, if_pos hkind] at h
  obtain ⟨text, htext, rfl⟩ := Option.map_eq_some_iff.1 h
  have hquoted : ¬ (kind = .integer ∨ kind = .double) := by
    rintro (rfl | rfl) <;> exact absurd hkind (by decide)
  obtain ⟨instant, -, rfl⟩ := Option.map_eq_some_iff.1 htext
  rw [htext, if_neg hquoted, render_quoted_format, Option.map_some]

lemma map_render_of_declared {kind : FieldKind} {literals : List FieldValue}
    {operands : List Operand}
    (h : literals.map (declaredOperand? kind) = operands.map some) (hkind : kind.isDate = true) :
    literals.map (fun literal => (utcText? literal).map fun text => "'" ++ text ++ "'") =
      operands.map fun o => some o.render := by
  induction literals generalizing operands with
  | nil =>
    obtain rfl : operands = [] := by simpa using h.symm
    rfl
  | cons literal rest ih =>
    cases operands with
    | nil => exact absurd h (by simp)
    | cons o others =>
      obtain ⟨hfirst, hrest⟩ := List.cons.inj h
      rw [List.map_cons, List.map_cons, ih hrest, render_of_declaredOperand? hkind hfirst]

/-! ### Expressions inside an expression -/

/-- An expression and the expressions inside it. -/
inductive Structured.Within : Structured → Structured → Prop
  | self (e : Structured) : Within e e
  | not {inner e : Structured} (h : Within inner e) : Within (.not inner) e
  | all {parts : List Structured} {part e : Structured} (hmem : part ∈ parts) (h : Within part e) :
      Within (.all parts) e
  | any {parts : List Structured} {part e : Structured} (hmem : part ∈ parts) (h : Within part e) :
      Within (.any parts) e

lemma exists_part_of_compileAll {criteria : List Criterion} {parts : List Structured}
    (h : compileAll parser schema criteria = .ok parts) {criterion : Criterion}
    (hmem : criterion ∈ criteria) : ∃ part ∈ parts, compile parser schema criterion = .ok part := by
  induction criteria generalizing parts with
  | nil => exact absurd hmem List.not_mem_nil
  | cons first rest ih =>
    obtain ⟨part, others, hpart, hothers, rfl⟩ := exists_of_compileAll_cons h
    rcases List.mem_cons.1 hmem with rfl | hmem
    · exact ⟨part, List.mem_cons_self, hpart⟩
    · obtain ⟨other, hother, hcompile⟩ := ih hothers hmem
      exact ⟨other, List.mem_cons_of_mem _ hother, hcompile⟩

/-- The expression of a criterion has the expressions of the criteria inside it. -/
theorem exists_within_of_compile {tree c : Criterion} (hwithin : tree.Within c)
    {whole : Structured} (h : compile parser schema tree = .ok whole) :
    ∃ e, compile parser schema c = .ok e ∧ whole.Within e := by
  induction hwithin generalizing whole with
  | self => exact ⟨whole, h, .self whole⟩
  | not _ ih =>
    obtain ⟨part, hpart, rfl⟩ := exists_of_map_eq_ok h
    obtain ⟨e, he, hinside⟩ := ih hpart
    exact ⟨e, he, .not hinside⟩
  | all hmem _ ih =>
    obtain ⟨parts, hparts, rfl⟩ := exists_of_map_eq_ok h
    obtain ⟨part, hpart, hcompile⟩ := exists_part_of_compileAll hparts hmem
    obtain ⟨e, he, hinside⟩ := ih hcompile
    exact ⟨e, he, .all hpart hinside⟩
  | any hmem _ ih =>
    obtain ⟨parts, hparts, rfl⟩ := exists_of_map_eq_ok h
    obtain ⟨part, hpart, hcompile⟩ := exists_part_of_compileAll hparts hmem
    obtain ⟨e, he, hinside⟩ := ih hcompile
    exact ⟨e, he, .any hpart hinside⟩

end CloudSearch

/-! ## What Elasticsearch is sent -/

/-- A value and the values inside it. -/
inductive Json.Within : Json → Json → Prop
  | self (j : Json) : Within j j
  | item {items : List Json} {item j : Json} (hmem : item ∈ items) (h : Within item j) :
      Within (.arr items) j
  | field {fields : JsonObject} {key : String} {value j : Json}
      (hmem : (key, value) ∈ fields.entries) (h : Within value j) : Within (.obj fields) j

namespace Elasticsearch

/-- The field of an object that compares a field, and the values it is compared with. -/
def comparison? : Json → Option (String × List Json)
  | .obj ⟨[("term", .obj ⟨[(field, value)]⟩)]⟩ => some (field, [value])
  | .obj ⟨[("must_not", .obj ⟨[("term", .obj ⟨[(field, value)]⟩)]⟩)]⟩ => some (field, [value])
  | .obj ⟨[("wildcard", .obj ⟨[(field, value)]⟩)]⟩ => some (field, [value])
  | .obj ⟨[("fuzzy", .obj ⟨[(field, value)]⟩)]⟩ => some (field, [value])
  | .obj ⟨[("range", .obj ⟨[(field, .obj ⟨bounds⟩)]⟩)]⟩ => some (field, bounds.map Prod.snd)
  | .obj ⟨[("query_string", .obj ⟨[("default_field", .str field), ("query", value)]⟩)]⟩ =>
    some (field, [value])
  | _ => none

/-- The pattern that a criterion writes around a term, if it does. -/
def pattern? : Criterion → Option (String → String)
  | .compare .contains _ _ => some fun term => "*" ++ term ++ "*"
  | .compare .starts _ _ => some fun term => term ++ "*"
  | _ => none

/-- A literal of a criterion as it is written, whatever it is compared with. -/
def written? (schema : Schema) (c : Criterion) (attr : Attribute) (value : FieldValue) :
    Option Json :=
  match pattern? c with
  | some pattern => (typedLiteral schema attr value).term?.map fun term => .str (pattern term)
  | none => some (literal schema attr value)

/-- A literal of a criterion as it is written on a field of dates: a timestamp in universal time,
a list of them, or a pattern around one. -/
def writtenDate? (c : Criterion) (value : FieldValue) : Option Json :=
  match pattern? c with
  | some pattern => value.utcText?.map fun text => .str (pattern text)
  | none => value.utcJson?

variable {schema : Schema} {m : Mention} {type : FieldType}

lemma written?_of_isDate (hfits : schema.Fits m type) (hdate : type.kind.isDate = true)
    (c : Criterion) {value : FieldValue} (hvalue : value ∈ m.literals) :
    written? schema c m.attr value = writtenDate? c value := by
  have haccepts := hfits.accepts value hvalue
  have htyped : typedLiteral schema m.attr value = value.asDate := by
    rw [typedLiteral, hfits.fieldKind?_eq, FieldValue.forKind, if_pos hdate]
  rw [written?, writtenDate?, literal, htyped, FieldValue.term?_asDate_of_accepts hdate haccepts,
    FieldValue.utcJson?_of_accepts hdate haccepts]

lemma concreteField_eq_ok {attr : Attribute} (hwildcard : attr ≠ .wildcard) (part : PartKind) :
    concreteField attr part = .ok attr.flatName := by
  rw [concreteField, if_neg (by simpa [Attribute.isWildcard] using hwildcard)]

lemma term?_of_patternTerm {attr : Attribute} {value : FieldValue} {term : String}
    (h : patternTerm schema attr value = .ok term) :
    (typedLiteral schema attr value).term? = some term := by
  rw [patternTerm] at h
  split at h
  next found hfound => rw [hfound, Except.ok.inj h]
  next => exact nomatch h

/-- A bound below stands in front of a bound above. -/
lemma lowWord_lt_highWord (bounds : Bounds) :
    (if bounds.lowIncluded then "gte" else "gt") <
      (if bounds.highIncluded then "lte" else "lt") := by
  cases bounds.lowIncluded <;> cases bounds.highIncluded <;> decide

/-- In a search for free text the name of the field is set last and stands first. -/
lemma ofFields_freeText (value name : Json) :
    Json.ofFields [("query", value), ("default_field", name)] =
      .obj ⟨[("default_field", name), ("query", value)]⟩ := by
  have hlt : "default_field" < "query" := by decide
  have hentries : KeyMap.insertEntry "default_field" name [("query", value)] =
      [("default_field", name), ("query", value)] := if_pos hlt
  exact congrArg (fun entries => Json.obj ⟨entries⟩) hentries

/-- The object for a comparison has its field and its literals as they are written. -/
lemma exists_values_of_compile {c : Criterion} (hm : c.mention? = some m)
    (hwildcard : m.attr ≠ .wildcard) {json : Json} (h : compile schema c = .ok json) :
    ∃ values, comparison? json = some (m.attr.flatName, values) ∧
      m.literals.map (written? schema c m.attr) = values.map some := by
  cases c with
  | compare comparison attr value =>
    obtain rfl := Option.some.inj hm
    have hfield := concreteField_eq_ok hwildcard
    rw [compile] at h
    cases comparison with
    | equal | notEqual | fuzzy =>
      rw [compileComparison, hfield] at h
      obtain rfl := Except.ok.inj h
      exact ⟨[literal schema attr value], rfl, rfl⟩
    | greater | greaterEqual | less | lessEqual =>
      rw [compileComparison, openRange, hfield] at h
      obtain rfl := Except.ok.inj h
      exact ⟨[literal schema attr value], rfl, rfl⟩
    | contains | starts =>
      rw [compileComparison, hfield] at h
      obtain ⟨field, hname, h⟩ := exists_of_bind_eq_ok h
      obtain ⟨term, hterm, h⟩ := exists_of_bind_eq_ok h
      obtain rfl := Except.ok.inj hname
      obtain rfl := Except.ok.inj h
      refine ⟨_, rfl, ?_⟩
      rw [List.map_singleton, written?, pattern?, term?_of_patternTerm hterm]
      rfl
    | freeText =>
      have hattr : attr.isWildcard = false := by simpa [Attribute.isWildcard] using hwildcard
      rw [compileComparison, hattr, if_neg Bool.false_ne_true, ofFields_freeText] at h
      obtain rfl := Except.ok.inj h
      exact ⟨[literal schema attr value], rfl, rfl⟩
  | between bounds attr low high =>
    obtain rfl := Option.some.inj hm
    rw [compile, concreteField_eq_ok hwildcard, ofFields_pair (lowWord_lt_highWord bounds)] at h
    obtain rfl := Except.ok.inj h
    exact ⟨[literal schema attr low, literal schema attr high], rfl, rfl⟩
  | _ => cases hm

lemma exists_part_of_compileAll {criteria : List Criterion} {parts : List Json}
    (h : compileAll schema criteria = .ok parts) {criterion : Criterion}
    (hmem : criterion ∈ criteria) : ∃ part ∈ parts, compile schema criterion = .ok part := by
  induction criteria generalizing parts with
  | nil => exact absurd hmem List.not_mem_nil
  | cons first rest ih =>
    obtain ⟨part, hpart, h⟩ := exists_of_bind_eq_ok h
    obtain ⟨others, hothers, h⟩ := exists_of_bind_eq_ok h
    obtain rfl := Except.ok.inj h
    rcases List.mem_cons.1 hmem with rfl | hmem
    · exact ⟨part, List.mem_cons_self, hpart⟩
    · obtain ⟨other, hother, hcompile⟩ := ih hothers hmem
      exact ⟨other, List.mem_cons_of_mem _ hother, hcompile⟩

/-- What is a part of a boolean query is inside it. -/
lemma within_bool {word : String} {parts : List Json} {part j : Json} (hmem : part ∈ parts)
    (h : part.Within j) : (single "bool" (single word (.arr parts))).Within j :=
  .field (List.mem_singleton_self _) (.field (List.mem_singleton_self _) (.item hmem h))

/-- The object of a criterion has the objects of the criteria inside it. -/
theorem exists_within_of_compile {tree c : Criterion} (hwithin : tree.Within c) {whole : Json}
    (h : compile schema tree = .ok whole) :
    ∃ json, compile schema c = .ok json ∧ whole.Within json := by
  induction hwithin generalizing whole with
  | self => exact ⟨whole, h, .self whole⟩
  | not _ ih =>
    obtain ⟨part, hpart, rfl⟩ := exists_of_map_eq_ok h
    obtain ⟨json, hjson, hinside⟩ := ih hpart
    exact ⟨json, hjson, within_bool (List.mem_singleton_self part) hinside⟩
  | all hmem _ ih | any hmem _ ih =>
    obtain ⟨parts, hparts, rfl⟩ := exists_of_map_eq_ok h
    obtain ⟨part, hpart, hcompile⟩ := exists_part_of_compileAll hparts hmem
    obtain ⟨json, hjson, hinside⟩ := ih hcompile
    exact ⟨json, hjson, within_bool hpart hinside⟩

end Elasticsearch

/-! ## Both engines -/

/-- **Valid queries are compiled as the schema declares.**  Wherever in the criteria of a valid
query a field is compared, the field has a type of values, and both engines have a definition for
the name that is written.  For CloudSearch the literals stand bare on a field of numbers and
between apostrophes on any other.  On a field of dates nothing but timestamps in universal time is
written for the literals, on either engine.  What is compiled for a comparison stands in what is
compiled for the criteria around it. -/
theorem comparison_fits_schema {q : Query} (hvalid : q.validate.1 = true) {tree c : Criterion}
    (htree : tree ∈ q.trees) (hwithin : tree.Within c) {m : Mention} (hm : c.mention? = some m)
    (hwildcard : m.attr ≠ .wildcard) (hscore : m.attr ≠ .score) :
    ∃ type, q.index.schema.fieldType? m.attr.path = some type ∧ type.kind ≠ .struct ∧
      some m.attr.flatName ∈
        (CloudSearch.fieldDefinitions q.index.schema).map CloudSearch.definedName? ∧
      m.attr.flatName ∈
        Elasticsearch.mappedNames (Elasticsearch.mapping q.index.schema) ∧
      (∀ text, CloudSearch.simpleText c ≠ .ok text) ∧
      (∀ parser e, CloudSearch.compile parser q.index.schema c = .ok e →
        ∃ operands, e.comparison? = some (some m.attr.flatName, operands) ∧
          m.literals.map (CloudSearch.declaredOperand? type.kind) = operands.map some ∧
          (type.kind.isDate = true →
            m.literals.map (fun literal => literal.utcText?.map fun text => "'" ++ text ++ "'") =
              operands.map fun o => some o.render)) ∧
      (∀ json, Elasticsearch.compile q.index.schema c = .ok json →
        ∃ values, Elasticsearch.comparison? json = some (m.attr.flatName, values) ∧
          (type.kind.isDate = true →
            m.literals.map (Elasticsearch.writtenDate? c) = values.map some)) ∧
      (∀ parser whole, CloudSearch.compile parser q.index.schema tree = .ok whole →
        ∃ e, CloudSearch.compile parser q.index.schema c = .ok e ∧ whole.Within e) ∧
      ∀ whole, Elasticsearch.compile q.index.schema tree = .ok whole →
        ∃ json, Elasticsearch.compile q.index.schema c = .ok json ∧ whole.Within json := by
  have hmentioned := q.mem_mentions htree hwithin hm
  have hne := Criterion.literals_ne_nil_of_mention? hm
  obtain ⟨type, hfits⟩ := q.exists_fits_of_valid hvalid hmentioned hwildcard hscore hne
  have hstruct := hfits.kind_ne_struct hne
  have hleaf : m.attr.flatName ∈ q.index.schema.definedLeaves := by
    refine Schema.mem_definedLeaves (Schema.mem_leaves_of_fieldType? hfits.fieldType?_eq) ?_
    simpa [FieldType.isDefined] using hstruct
  refine ⟨type, hfits.fieldType?_eq, hstruct, ?_, Elasticsearch.mem_mappedNames_mapping hleaf,
    CloudSearch.simpleText_ne_ok hm hwildcard, fun parser e he => ?_, fun json hjson => ?_,
    fun parser whole hwhole => CloudSearch.exists_within_of_compile hwithin hwhole,
    fun whole hwhole => Elasticsearch.exists_within_of_compile hwithin hwhole⟩
  · rw [CloudSearch.map_definedName?_fieldDefinitions]
    exact List.mem_map_of_mem hleaf
  · obtain ⟨operands, hcomparison, hdeclared⟩ :=
      CloudSearch.exists_declared_operands hfits hwildcard hm he
    exact ⟨operands, hcomparison, hdeclared, CloudSearch.map_render_of_declared hdeclared⟩
  · obtain ⟨values, hcomparison, hwritten⟩ :=
      Elasticsearch.exists_values_of_compile hm hwildcard hjson
    refine ⟨values, hcomparison, fun hdate => ?_⟩
    rw [← hwritten]
    exact List.map_congr_left fun value hvalue =>
      (Elasticsearch.written?_of_isDate hfits hdate c hvalue).symm

/-- Part of a date that is written with an offset, looked for in a field of many dates. -/
theorem comparison_fits_schema_of_offset :
    let schema : Schema := ⟨[("when", .nested ⟨[("dates", .field (.ofKind .dateArray))]⟩)]⟩
    let literal : FieldValue := .text "2024-03-09T08:05:01+01:00"
    let c : Criterion := .compare .contains ⟨"when.dates"⟩ literal
    let tree : Criterion := .all [.any [], .not c]
    let q : Query := .ofClauses ⟨"events", .cloudSearch, schema⟩ [.limit (.integer 5), .filter tree]
    q.validate.1 = true ∧ tree ∈ q.trees ∧ tree.Within c ∧
      c.mention? = some ⟨⟨"when.dates"⟩, .contains, [literal]⟩ ∧
      (⟨"when.dates"⟩ : Attribute) ≠ .wildcard ∧ (⟨"when.dates"⟩ : Attribute) ≠ .score ∧
      ∃ e json, CloudSearch.compile .structured schema c = .ok e ∧
        Elasticsearch.compile schema c = .ok json ∧
        e.comparison? = some (some "when__dates", [.quoted "2024-03-09T07:05:01Z"]) ∧
        Elasticsearch.comparison? json = some ("when__dates", [.str "*2024-03-09T07:05:01Z*"]) := by
  intro schema literal c tree q
  have hvalid : q.validate.1 = true := by decide +kernel
  have htree : tree ∈ q.trees := List.mem_singleton_self tree
  have hwithin : tree.Within c := by
    refine .all ?_ (.not (.self c))
    exact List.mem_cons_of_mem _ (List.mem_singleton_self _)
  have hm : c.mention? = some ⟨⟨"when.dates"⟩, .contains, [literal]⟩ := rfl
  have hwildcard : (⟨"when.dates"⟩ : Attribute) ≠ .wildcard := by decide
  have hscore : (⟨"when.dates"⟩ : Attribute) ≠ .score := by decide
  refine ⟨hvalid, htree, hwithin, hm, hwildcard, hscore, ?_⟩
  obtain ⟨type, htype, -, -, -, -, hstructured, hjson, -, -⟩ :=
    comparison_fits_schema hvalid htree hwithin hm hwildcard hscore
  have hkind : type.kind = .dateArray := by
    have hdeclared : schema.fieldKind? "when.dates" = some .dateArray := by decide +kernel
    exact Option.some.inj ((congrArg (Option.map FieldType.kind) htype).symm.trans hdeclared)
  have hname : Attribute.flatName ⟨"when.dates"⟩ = "when__dates" := by decide +kernel
  have hutc : literal.utcText? = some "2024-03-09T07:05:01Z" := by decide +kernel
  have hoperand : CloudSearch.declaredOperand? .dateArray literal =
      some (.quoted "2024-03-09T07:05:01Z") := by decide +kernel
  -- both engines have a form for the comparison
  have hcompiles : (CloudSearch.compile .structured schema c).toOption.isSome ∧
      (Elasticsearch.compile schema c).toOption.isSome := by decide +kernel
  rcases he : CloudSearch.compile .structured schema c with _ | e
  · simp [he, Except.toOption] at hcompiles
  rcases hj : Elasticsearch.compile schema c with _ | json
  · simp [hj, Except.toOption] at hcompiles
  obtain ⟨operands, hfield, hoperands, -⟩ := hstructured .structured e he
  obtain ⟨values, hfield', hvalues⟩ := hjson json hj
  refine ⟨e, json, rfl, rfl, ?_, ?_⟩
  · obtain ⟨o, rfl, ho⟩ := List.map_eq_singleton_iff.1 hoperands.symm
    rw [hkind, hoperand] at ho
    rw [hfield, hname, Option.some.inj ho]
  · have hdate : type.kind.isDate = true := by
      rw [hkind]
      rfl
    obtain ⟨value, rfl, hvalue⟩ := List.map_eq_singleton_iff.1 (hvalues hdate).symm
    rw [Elasticsearch.writtenDate?, Elasticsearch.pattern?, hutc] at hvalue
    rw [hfield', hname, Option.some.inj hvalue]
    rfl

end SearchGateway
