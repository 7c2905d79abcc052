import SearchGateway.Elasticsearch.Criteria
import SearchGateway.Proofs.Maps
import SearchGateway.Proofs.Unambiguous

/-!
# The meaning of compiled criteria

What criteria on whole numbers mean, given the number that a document has in each field, and
what the two engines take the compiled criteria to mean.  CloudSearch is given a text, which
has the meaning of the expression that is read from it; a square bracket includes the bound,
a curly one excludes it, and a missing bound does not restrict anything.  Elasticsearch is
given a JSON object with a single word that says how the rest is meant.  What an engine would
not accept, or what depends on more than the numbers in the fields, has no meaning.

The main result is `meanings_agree`: criteria on whole numbers are compiled for both engines,
and under every assignment of numbers to fields both compiled forms are true exactly when
the criterion is.
-/
namespace SearchGateway

/-! ## The meaning of criteria -/

/-- Whether a comparison is one of numbers. -/
def Comparison.isNumeric : Comparison → Bool
  | .contains | .starts | .freeText | .fuzzy => false
  | _ => true

/-- Whether a number stands in a comparison to another one. -/
def Comparison.holds : Comparison → Int → Int → Bool
  | .equal, x, n => x == n
  | .notEqual, x, n => x != n
  | .greater, x, n => n < x
  | .greaterEqual, x, n => n ≤ x
  | .less, x, n => x < n
  | .lessEqual, x, n => x ≤ n
  | .contains, _, _ | .starts, _, _ | .freeText, _, _ | .fuzzy, _, _ => false

/-- Whether a number is less than another one, or equal to it where that is included. -/
def inOrder (included : Bool) (x y : Int) : Bool := if included then x ≤ y else x < y

/-- Whether a number lies between two others. -/
def Bounds.holds (bounds : Bounds) (x low high : Int) : Bool :=
  inOrder bounds.lowIncluded low x && inOrder bounds.highIncluded x high

namespace Criterion

mutual

/-- Whether a criterion on whole numbers is true where fields have the given values. -/
def holds (value : String → Int) : Criterion → Bool
  | .compare comparison attr (.integer n) => comparison.holds (value attr.flatName) n
  | .between bounds attr (.integer low) (.integer high) =>
    bounds.holds (value attr.flatName) low high
  | .not criterion => !criterion.holds value
  | .all criteria => (holdsEach value criteria).all id
  | .any criteria => (holdsEach value criteria).any id
  | _ => false

/-- Which of some criteria are true. -/
def holdsEach (value : String → Int) : List Criterion → List Bool
  | [] => []
  | criterion :: rest => criterion.holds value :: holdsEach value rest

end

lemma holdsEach_ne_nil {criteria : List Criterion} (h : criteria ≠ []) (value : String → Int) :
    holdsEach value criteria ≠ [] := by
  cases criteria with
  | nil => exact absurd rfl h
  | cons criterion rest => exact List.cons_ne_nil _ _

end Criterion

/-- The attribute names a field that is declared to hold whole numbers. -/
structure Attribute.IsInteger (schema : Schema) (attr : Attribute) : Prop where
  isWildcard_eq_false : attr.isWildcard = false
  space_notMem : ' ' ∉ attr.path.toList
  fieldKind?_eq : schema.fieldKind? attr.path = some .integer

/-- A criterion that compares integer fields with whole numbers and combines at least one
criterion wherever it combines criteria. -/
inductive Criterion.OnIntegers (schema : Schema) : Criterion → Prop
  | compare {comparison : Comparison} {attr : Attribute} (n : Int)
      (hcomparison : comparison.isNumeric = true) (hattr : attr.IsInteger schema) :
      OnIntegers schema (.compare comparison attr (.integer n))
  | between {attr : Attribute} (bounds : Bounds) (low high : Int)
      (hattr : attr.IsInteger schema) :
      OnIntegers schema (.between bounds attr (.integer low) (.integer high))
  | not {criterion : Criterion} (h : OnIntegers schema criterion) :
      OnIntegers schema (.not criterion)
  | all {criteria : List Criterion} (hne : criteria ≠ [])
      (h : ∀ criterion ∈ criteria, OnIntegers schema criterion) : OnIntegers schema (.all criteria)
  | any {criteria : List Criterion} (hne : criteria ≠ [])
      (h : ∀ criterion ∈ criteria, OnIntegers schema criterion) : OnIntegers schema (.any criteria)

/-! ## The meaning of structured texts -/

namespace CloudSearch

/-- The number that an operand stands for. -/
def Operand.number? : Operand → Option Int
  | .bare term => Decimal.wholeOf? term
  | .quoted _ => none

/-- Whether the lower side of a range lies below a number. -/
def RangeSide.below? (side : RangeSide) (x : Int) : Option Bool :=
  match side.bound with
  | none => some true
  | some bound => bound.number?.map fun n => inOrder side.included n x

/-- Whether the upper side of a range lies above a number. -/
def RangeSide.above? (side : RangeSide) (x : Int) : Option Bool :=
  match side.bound with
  | none => some true
  | some bound => bound.number?.map fun n => inOrder side.included x n

/-- The meaning of a combination; there is none without parts. -/
def combined? (combine : List Bool → Bool) : List Bool → Option Bool
  | [] => none
  | parts => some (combine parts)

namespace Structured

mutual

/-- Whether an expression is true where fields have the given values. -/
def meaning? (value : String → Int) : Structured → Option Bool
  | .term (some field) operand => operand.number?.map (value field == ·)
  | .notTerm (some field) operand => operand.number?.map (value field != ·)
  | .range field low high => do
    let isAbove ← low.below? (value field)
    let isBelow ← high.above? (value field)
    return isAbove && isBelow
  | .not inner => (inner.meaning? value).map (!·)
  | .all parts => (meanings? value parts).bind (combined? (·.all id))
  | .any parts => (meanings? value parts).bind (combined? (·.any id))
  | _ => none

/-- Which of some expressions are true. -/
def meanings? (value : String → Int) : List Structured → Option (List Bool)
  | [] => some []
  | part :: rest => do
    let isTrue ← part.meaning? value
    let areTrue ← meanings? value rest
    return isTrue :: areTrue

end

end Structured

/-- Whether a structured text is true where fields have the given values. -/
def textMeaning? (value : String → Int) (text : String) : Option Bool :=
  (Structured.read? text).bind (·.meaning? value)

variable {parser : Parser} {schema : Schema} {attr : Attribute}

lemma operand_integer (h : attr.IsInteger schema) (n : Int) :
    operand parser schema attr (.integer n) = .ok (.bare (Decimal.wholeText n)) := by
  rw [operand, h.fieldKind?_eq]
  rfl

lemma fieldOf_isInteger (h : attr.IsInteger schema) : fieldOf attr = some attr.flatName := by
  rw [fieldOf, h.isWildcard_eq_false]
  rfl

lemma concreteField_isInteger (h : attr.IsInteger schema) (part : PartKind) :
    concreteField parser attr part = .ok attr.flatName := by
  rw [concreteField, h.isWildcard_eq_false]
  rfl

lemma openRange_isInteger (h : attr.IsInteger schema) (part : PartKind) (n : Int)
    (sides : RangeSide → RangeSide × RangeSide) (included : Bool) :
    openRange parser schema part attr (.integer n) sides included =
      .ok (.range attr.flatName (sides ⟨included, some (.bare (Decimal.wholeText n))⟩).1
        (sides ⟨included, some (.bare (Decimal.wholeText n))⟩).2) := by
  rw [openRange, concreteField_isInteger h, operand_integer h]
  rfl

@[simp] lemma number?_wholeText (n : Int) :
    (Operand.bare (Decimal.wholeText n)).number? = some n :=
  Decimal.wholeOf?_wholeText n

@[simp] lemma below?_wholeText (included : Bool) (n x : Int) :
    RangeSide.below? ⟨included, some (.bare (Decimal.wholeText n))⟩ x =
      some (inOrder included n x) := by
  show Option.map (inOrder included · x) _ = _
  rw [number?_wholeText, Option.map_some]

@[simp] lemma above?_wholeText (included : Bool) (n x : Int) :
    RangeSide.above? ⟨included, some (.bare (Decimal.wholeText n))⟩ x =
      some (inOrder included x n) := by
  show Option.map (inOrder included x ·) _ = _
  rw [number?_wholeText, Option.map_some]

@[simp] lemma below?_unbounded (x : Int) : RangeSide.unbounded.below? x = some true := rfl

@[simp] lemma above?_unbounded (x : Int) : RangeSide.unbounded.above? x = some true := rfl

/-- The expression of a comparison means what the comparison means. -/
lemma exists_meaning_compileComparison {comparison : Comparison}
    (hcomparison : comparison.isNumeric = true) (hattr : attr.IsInteger schema) (n : Int) :
    ∃ e, compileComparison parser schema comparison attr (.integer n) = .ok e ∧
      ∀ value, e.meaning? value = some (comparison.holds (value attr.flatName) n) := by
  cases comparison with
  | equal | notEqual =>
    rw [compileComparison, operand_integer hattr, fieldOf_isInteger hattr]
    refine ⟨_, rfl, fun value => ?_⟩
    rw [Structured.meaning?, number?_wholeText]
    rfl
  | greater | greaterEqual | less | lessEqual =>
    rw [compileComparison, openRange_isInteger hattr]
    refine ⟨_, rfl, fun value => ?_⟩
    simp [Structured.meaning?, above, below, Comparison.holds, inOrder]
  | contains | starts | freeText | fuzzy => exact absurd hcomparison (by decide)

/-- The expressions of some criteria mean what the criteria mean. -/
lemma exists_meanings_compileAll {criteria : List Criterion}
    (h : ∀ criterion ∈ criteria, ∃ e, compile parser schema criterion = .ok e ∧
      ∀ value, e.meaning? value = some (criterion.holds value)) :
    ∃ parts, compileAll parser schema criteria = .ok parts ∧
      ∀ value, Structured.meanings? value parts = some (Criterion.holdsEach value criteria) := by
  induction criteria with
  | nil => exact ⟨[], rfl, fun _ => rfl⟩
  | cons criterion rest ih =>
    obtain ⟨part, hpart, hmeaning⟩ := h criterion List.mem_cons_self
    obtain ⟨parts, hparts, hmeanings⟩ :=
      ih fun other hother => h other (List.mem_cons_of_mem _ hother)
    refine ⟨part :: parts, ?_, fun value => ?_⟩
    · rw [compileAll, hpart, hparts]
      rfl
    · rw [Structured.meanings?, hmeaning, hmeanings]
      rfl

lemma combined?_of_ne_nil {parts : List Bool} (h : parts ≠ []) (combine : List Bool → Bool) :
    combined? combine parts = some (combine parts) := by
  cases parts with
  | nil => exact absurd rfl h
  | cons part rest => rfl

/-- A criterion on whole numbers has an expression, which means what the criterion means. -/
theorem exists_meaning_compile (parser : Parser) {criterion : Criterion}
    (h : criterion.OnIntegers schema) :
    ∃ e, compile parser schema criterion = .ok e ∧
      ∀ value, e.meaning? value = some (criterion.holds value) := by
  induction h with
  | compare n hcomparison hattr => exact exists_meaning_compileComparison hcomparison hattr n
  | between bounds low high hattr =>
    rw [compile, concreteField_isInteger hattr, operand_integer hattr, operand_integer hattr]
    refine ⟨_, rfl, fun value => ?_⟩
    simp [Structured.meaning?, Criterion.holds, Bounds.holds]
  | not _ ih =>
    obtain ⟨e, he, hmeaning⟩ := ih
    rw [compile, he]
    refine ⟨_, rfl, fun value => ?_⟩
    rw [Structured.meaning?, hmeaning, Criterion.holds]
    rfl
  | all hne _ ih =>
    obtain ⟨parts, hparts, hmeanings⟩ := exists_meanings_compileAll ih
    rw [compile, hparts]
    refine ⟨_, rfl, fun value => ?_⟩
    rw [Structured.meaning?, hmeanings, Option.bind_some,
      combined?_of_ne_nil (Criterion.holdsEach_ne_nil hne value), Criterion.holds]
  | any hne _ ih =>
    obtain ⟨parts, hparts, hmeanings⟩ := exists_meanings_compileAll ih
    rw [compile, hparts]
    refine ⟨_, rfl, fun value => ?_⟩
    rw [Structured.meaning?, hmeanings, Option.bind_some,
      combined?_of_ne_nil (Criterion.holdsEach_ne_nil hne value), Criterion.holds]

end CloudSearch

/-! ## The meaning of JSON queries -/

namespace Elasticsearch

/-- Whether a number satisfies a bound of a range. -/
def boundMeaning? (x : Int) : String × Json → Option Bool
  | ("gt", .int n) => some (n < x)
  | ("gte", .int n) => some (n ≤ x)
  | ("lt", .int n) => some (x < n)
  | ("lte", .int n) => some (x ≤ n)
  | _ => none

/-- Whether the value of a field is the number it is compared with. -/
def termMeaning? (value : String → Int) : Json → Option Bool
  | .obj ⟨[(field, .int n)]⟩ => some (value field == n)
  | _ => none

/-- Whether the value of a field satisfies all bounds of a range. -/
def rangeMeaning? (value : String → Int) : Json → Option Bool
  | .obj ⟨[(field, .obj ⟨bounds⟩)]⟩ =>
    (bounds.mapM (boundMeaning? (value field))).map (·.all id)
  | _ => none

/-- The meaning of a boolean query with the given clauses.  All that must be true is true and
nothing is true that must not be.  Of what should be true something is, unless something must
be true or nothing should be. -/
def clausesMeaning (clauses : List (String × List Bool)) : Bool :=
  let must := (clauses.lookup "must").getD []
  let should := (clauses.lookup "should").getD []
  let mustNot := (clauses.lookup "must_not").getD []
  must.all id && !mustNot.any id && (should.any id || should.isEmpty || !must.isEmpty)

mutual

/-- Whether a query is true where fields have the given values. -/
def meaning? (value : String → Int) : Json → Option Bool
  | .obj ⟨[("term", body)]⟩ => termMeaning? value body
  | .obj ⟨[("range", body)]⟩ => rangeMeaning? value body
  | .obj ⟨[("must_not", body)]⟩ => (meaning? value body).map (!·)
  | .obj ⟨[("bool", .obj ⟨clauses⟩)]⟩ => (clauseMeanings? value clauses).map clausesMeaning
  | _ => none

/-- Which queries are true in each of some clauses. -/
def clauseMeanings? (value : String → Int) :
    List (String × Json) → Option (List (String × List Bool))
  | [] => some []
  | (word, .arr parts) :: rest => do
    let areTrue ← meanings? value parts
    let others ← clauseMeanings? value rest
    return (word, areTrue) :: others
  | _ => none

/-- Which of some queries are true. -/
def meanings? (value : String → Int) : List Json → Option (List Bool)
  | [] => some []
  | part :: rest => do
    let isTrue ← meaning? value part
    let areTrue ← meanings? value rest
    return isTrue :: areTrue

end

variable {schema : Schema} {attr : Attribute}

lemma literal_integer (h : attr.IsInteger schema) (n : Int) :
    literal schema attr (.integer n) = .int n := by
  rw [literal, typedLiteral, h.fieldKind?_eq]
  rfl

lemma concreteField_isInteger (h : attr.IsInteger schema) (part : PartKind) :
    concreteField attr part = .ok attr.flatName := by
  rw [concreteField, h.isWildcard_eq_false]
  rfl

/-- The JSON object of a comparison means what the comparison means. -/
lemma exists_meaning_compileComparison {comparison : Comparison}
    (hcomparison : comparison.isNumeric = true) (hattr : attr.IsInteger schema) (n : Int) :
    ∃ json, compileComparison schema comparison attr (.integer n) = .ok json ∧
      ∀ value, meaning? value json = some (comparison.holds (value attr.flatName) n) := by
  cases comparison with
  | equal | notEqual =>
    rw [compileComparison, concreteField_isInteger hattr, literal_integer hattr]
    exact ⟨_, rfl, fun _ => rfl⟩
  | greater | greaterEqual | less | lessEqual =>
    rw [compileComparison, openRange, concreteField_isInteger hattr, literal_integer hattr]
    refine ⟨_, rfl, fun value => congrArg some ?_⟩
    exact Bool.and_true _
  | contains | starts | freeText | fuzzy => exact absurd hcomparison (by decide)

lemma ofFields_pair {key key' : String} (h : key < key') (a b : Json) :
    Json.ofFields [(key, a), (key', b)] = .obj ⟨[(key, a), (key', b)]⟩ := by
  have hentries : KeyMap.insertEntry key' b [(key, a)] = [(key, a)] ++ [(key', b)] :=
    KeyMap.insertEntry_of_forall_lt (List.forall_mem_singleton.2 h)
  exact congrArg (fun entries => Json.obj ⟨entries⟩) hentries

/-- A range with two bounds, whose words stand in this order. -/
lemma rangeMeaning?_bounds (bounds : Bounds) (low high : Int) (field : String)
    (value : String → Int) :
    rangeMeaning? value (single field (.ofFields
      [(if bounds.lowIncluded then "gte" else "gt", .int low),
        (if bounds.highIncluded then "lte" else "lt", .int high)])) =
      some (bounds.holds (value field) low high) := by
  have hlt : (if bounds.lowIncluded then "gte" else "gt") <
      (if bounds.highIncluded then "lte" else "lt") := by
    cases bounds.lowIncluded <;> cases bounds.highIncluded <;> decide
  rw [ofFields_pair hlt, Bounds.holds]
  -- the words decide which comparison each bound is
  cases bounds.lowIncluded <;> cases bounds.highIncluded
  all_goals
    refine congrArg some ?_
    show (_ && (_ && true)) = (_ && _)
    rw [Bool.and_true]
    rfl

/-- The JSON objects of some criteria mean what the criteria mean. -/
lemma exists_meanings_compileAll {criteria : List Criterion}
    (h : ∀ criterion ∈ criteria, ∃ json, compile schema criterion = .ok json ∧
      ∀ value, meaning? value json = some (criterion.holds value)) :
    ∃ parts, compileAll schema criteria = .ok parts ∧
      ∀ value, meanings? value parts = some (Criterion.holdsEach value criteria) := by
  induction criteria with
  | nil => exact ⟨[], rfl, fun _ => rfl⟩
  | cons criterion rest ih =>
    obtain ⟨part, hpart, hmeaning⟩ := h criterion List.mem_cons_self
    obtain ⟨parts, hparts, hmeanings⟩ :=
      ih fun other hother => h other (List.mem_cons_of_mem _ hother)
    refine ⟨part :: parts, ?_, fun value => ?_⟩
    · rw [compileAll, hpart, hparts]
      rfl
    · rw [meanings?, hmeaning, hmeanings]
      rfl

@[simp] lemma clausesMeaning_must (areTrue : List Bool) :
    clausesMeaning [("must", areTrue)] = areTrue.all id := by
  show (areTrue.all id && true && true) = _
  rw [Bool.and_true, Bool.and_true]

@[simp] lemma clausesMeaning_mustNot (areTrue : List Bool) :
    clausesMeaning [("must_not", areTrue)] = !areTrue.any id := by
  show (true && !areTrue.any id && true) = _
  rw [Bool.and_true, Bool.true_and]

/-- Of some queries that should be true one must be. -/
lemma clausesMeaning_should {areTrue : List Bool} (h : areTrue ≠ []) :
    clausesMeaning [("should", areTrue)] = areTrue.any id := by
  show (true && (areTrue.any id || areTrue.isEmpty || false)) = _
  rw [List.isEmpty_eq_false_iff.2 h, Bool.or_false, Bool.or_false, Bool.true_and]

/-- The meaning of a boolean query with a single clause. -/
lemma meaning?_bool (value : String → Int) (word : String) (parts : List Json) :
    meaning? value (single "bool" (single word (.arr parts))) =
      (meanings? value parts).map fun areTrue => clausesMeaning [(word, areTrue)] := by
  show Option.map clausesMeaning ((meanings? value parts).bind fun areTrue =>
    some [(word, areTrue)]) = _
  cases meanings? value parts with
  | none => rfl
  | some areTrue => rfl

/-- A criterion on whole numbers has a JSON object, which means what the criterion means. -/
theorem exists_meaning_compile {criterion : Criterion} (h : criterion.OnIntegers schema) :
    ∃ json, compile schema criterion = .ok json ∧
      ∀ value, meaning? value json = some (criterion.holds value) := by
  induction h with
  | compare n hcomparison hattr => exact exists_meaning_compileComparison hcomparison hattr n
  | between bounds low high hattr =>
    rw [compile, concreteField_isInteger hattr, literal_integer hattr, literal_integer hattr]
    exact ⟨_, rfl, rangeMeaning?_bounds bounds low high _⟩
  | @not inner _ ih =>
    obtain ⟨part, hpart, hmeaning⟩ := ih
    rw [compile, hpart]
    refine ⟨_, rfl, fun value => ?_⟩
    have hparts : meanings? value [part] = some [inner.holds value] := by
      rw [meanings?, hmeaning]
      rfl
    rw [meaning?_bool, hparts]
    simp [Criterion.holds]
  | @all criteria hne _ ih =>
    obtain ⟨parts, hparts, hmeanings⟩ := exists_meanings_compileAll ih
    rw [compile, hparts]
    refine ⟨_, rfl, fun value => ?_⟩
    rw [meaning?_bool, hmeanings]
    simp [Criterion.holds]
  | @any criteria hne _ ih =>
    obtain ⟨parts, hparts, hmeanings⟩ := exists_meanings_compileAll ih
    rw [compile, hparts]
    refine ⟨_, rfl, fun value => ?_⟩
    rw [meaning?_bool, hmeanings]
    simp [Criterion.holds, clausesMeaning_should (Criterion.holdsEach_ne_nil hne value)]

end Elasticsearch

/-! ## Both engines -/

lemma Criterion.OnIntegers.isInteger {schema : Schema} {criterion : Criterion}
    (h : criterion.OnIntegers schema) :
    ∀ attr ∈ criterion.attributes, attr.IsInteger schema := by
  induction h with
  | compare _ _ hattr | between _ _ _ hattr => exact List.forall_mem_singleton.2 hattr
  | not _ ih => exact ih
  | all _ _ ih | any _ _ ih =>
    intro attr hattr
    obtain ⟨criterion, hcriterion, hmem⟩ := Criterion.exists_of_mem_attributesAll hattr
    exact ih criterion hcriterion attr hmem

/-- **Compilation keeps meaning.**  A criterion on whole numbers is compiled for both engines,
and both compiled forms are true exactly where the criterion is true. -/
theorem meanings_agree (parser : CloudSearch.Parser) {schema : Schema} {criterion : Criterion}
    (h : criterion.OnIntegers schema) :
    ∃ text json, CloudSearch.structuredText parser schema criterion = .ok text ∧
      Elasticsearch.compile schema criterion = .ok json ∧
      ∀ value : String → Int,
        CloudSearch.textMeaning? value text = some (criterion.holds value) ∧
        Elasticsearch.meaning? value json = some (criterion.holds value) := by
  obtain ⟨e, he, hmeaning⟩ := CloudSearch.exists_meaning_compile parser h
  obtain ⟨json, hjson, hjsonMeaning⟩ := Elasticsearch.exists_meaning_compile h
  have hread : CloudSearch.Structured.read? e.render = some e :=
    CloudSearch.Structured.read?_render <| CloudSearch.readable_of_compile criterion
      (fun attr hattr => (h.isInteger attr hattr).space_notMem) he
  refine ⟨e.render, json, ?_, hjson, fun value => ⟨?_, hjsonMeaning value⟩⟩
  · rw [CloudSearch.structuredText, he]
    rfl
  · rw [CloudSearch.textMeaning?, hread, Option.bind_some, hmeaning]

/-- An inequality or a range, and not an open range, with negative numbers and a nested
field. -/
theorem meanings_agree_of_ranges :
    let schema : Schema := ⟨[("year", .field (.ofKind .integer)),
      ("stats", .nested ⟨[("age", .field (.ofKind .integer))]⟩)]⟩
    let criterion : Criterion :=
      .all [.any [.compare .notEqual ⟨"year"⟩ (.integer 1990),
          .between ⟨true, false⟩ ⟨"stats.age"⟩ (.integer (-5)) (.integer 30)],
        .not (.compare .lessEqual ⟨"year"⟩ (.integer (-3)))]
    let text := "(and (or (not term field=year 1990) (range field=stats__age [-5,30\x7d)) " ++
      "(not (range field=year \x7b,-3])))"
    criterion.OnIntegers schema ∧
      CloudSearch.structuredText .structured schema criterion = .ok text ∧
      ∀ value : String → Int, CloudSearch.textMeaning? value text =
        some ((value "year" != 1990 || (-5 ≤ value "stats__age" && value "stats__age" < 30)) &&
          !(value "year" ≤ -3)) := by
  intro schema criterion text
  have hyear : Attribute.IsInteger schema ⟨"year"⟩ :=
    ⟨by decide, by decide, by decide +kernel⟩
  have hage : Attribute.IsInteger schema ⟨"stats.age"⟩ :=
    ⟨by decide, by decide, by decide +kernel⟩
  have hcriterion : criterion.OnIntegers schema := by
    refine .all (by simp) (List.forall_mem_cons.2 ⟨?_, List.forall_mem_singleton.2 ?_⟩)
    · refine .any (by simp) (List.forall_mem_cons.2 ⟨?_, List.forall_mem_singleton.2 ?_⟩)
      · exact .compare 1990 rfl hyear
      · exact .between _ (-5) 30 hage
    · exact .not (.compare (-3) rfl hyear)
  have htext : CloudSearch.structuredText .structured schema criterion = .ok text :=
    congrArg Except.ok (by decide +kernel)
  refine ⟨hcriterion, htext, fun value => ?_⟩
  obtain ⟨text', _, htext', -, hmeaning⟩ := meanings_agree .structured hcriterion
  obtain rfl : text' = text := Except.ok.inj (htext'.symm.trans htext)
  have hyearName : Attribute.flatName ⟨"year"⟩ = "year" := by decide
  have hageName : Attribute.flatName ⟨"stats.age"⟩ = "stats__age" := by decide +kernel
  rw [(hmeaning value).1]
  simp [criterion, Criterion.holds, Criterion.holdsEach, Comparison.holds, Bounds.holds, inOrder,
    hyearName, hageName]

end SearchGateway
