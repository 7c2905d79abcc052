import Mathlib.Tactic.Lemma
import SearchGateway.Proofs.StructuredReader

/-!
# Structured texts are unambiguous

The structured text of a criterion says what the criterion looks for.  Its *skeleton* keeps
what the text should show: the tree with its operators, the field of every comparison and
the operand that every literal became.  Free text and containment have one form, so they
are one operator in the skeleton.

The expression of a criterion is readable as soon as no attribute has a space
(`readable_of_compile`), and the skeleton can be found in the expression
(`ofStructured_of_compile`).  Since a readable expression is read from its written form,
two criteria with equal texts have equal skeletons (`skeleton_eq_of_structuredText_eq`).
In particular the characters of a literal cannot end its apostrophes early.
-/
namespace SearchGateway

/-! ## Results that are not errors -/

lemma exists_of_map_eq_ok {ε α β : Type} {f : α → β} {x : Except ε α} {b : β}
    (h : x.map f = .ok b) : ∃ a, x = .ok a ∧ f a = b := by
  cases x with
  | error e => exact nomatch h
  | ok a => exact ⟨a, rfl, Except.ok.inj h⟩

lemma exists_of_bind_eq_ok {ε α β : Type} {f : α → Except ε β} {x : Except ε α} {b : β}
    (h : x >>= f = .ok b) : ∃ a, x = .ok a ∧ f a = .ok b := by
  cases x with
  | error e => exact nomatch h
  | ok a => exact ⟨a, rfl, h⟩

/-! ## Skeletons -/

/-- The comparison that stands for all comparisons of its form. -/
def Comparison.form : Comparison → Comparison
  | .freeText => .contains
  | comparison => comparison

namespace Criterion

mutual

/-- The attributes of a criterion, from left to right. -/
def attributes : Criterion → List Attribute
  | .compare _ attr _ => [attr]
  | .between _ attr _ _ => [attr]
  | .not criterion => criterion.attributes
  | .all criteria => attributesAll criteria
  | .any criteria => attributesAll criteria

/-- The attributes of some criteria, from left to right. -/
def attributesAll : List Criterion → List Attribute
  | [] => []
  | criterion :: rest => criterion.attributes ++ attributesAll rest

end

lemma exists_of_mem_attributesAll {criteria : List Criterion} {attr : Attribute}
    (h : attr ∈ attributesAll criteria) : ∃ criterion ∈ criteria, attr ∈ criterion.attributes := by
  induction criteria with
  | nil => exact absurd h List.not_mem_nil
  | cons criterion rest ih =>
    rcases List.mem_append.1 h with hfirst | hrest
    · exact ⟨criterion, List.mem_cons_self, hfirst⟩
    · obtain ⟨other, hother, hmem⟩ := ih hrest
      exact ⟨other, List.mem_cons_of_mem _ hother, hmem⟩

end Criterion

namespace CloudSearch

/-- What the structured text of a criterion shows.  The wildcard is no field, and a literal
without a term is no operand. -/
inductive Skeleton where
  | compare (comparison : Comparison) (field : Option String) (literal : Option Operand)
  | between (bounds : Bounds) (field : Option String) (low high : Option Operand)
  | not (inner : Skeleton)
  | all (parts : List Skeleton)
  | any (parts : List Skeleton)

/-- The operand of a literal, if it has one. -/
def operand? (schema : Schema) (attr : Attribute) (value : FieldValue) : Option Operand :=
  (operand .structured schema attr value).toOption

namespace Skeleton

mutual

/-- The skeleton of a criterion. -/
def ofCriterion (schema : Schema) : Criterion → Skeleton
  | .compare comparison attr value =>
    .compare comparison.form (fieldOf attr) (operand? schema attr value)
  | .between bounds attr low high =>
    .between bounds (fieldOf attr) (operand? schema attr low) (operand? schema attr high)
  | .not criterion => .not (ofCriterion schema criterion)
  | .all criteria => .all (ofCriteria schema criteria)
  | .any criteria => .any (ofCriteria schema criteria)

/-- The skeletons of some criteria. -/
def ofCriteria (schema : Schema) : List Criterion → List Skeleton
  | [] => []
  | criterion :: rest => ofCriterion schema criterion :: ofCriteria schema rest

end

/-- The skeleton that a range is written for: it has two bounds, or it is open on one side. -/
def ofRange (field : String) (low high : RangeSide) : Skeleton :=
  match low.bound, high.bound with
  | some lowBound, some highBound =>
    .between ⟨low.included, high.included⟩ (some field) (some lowBound) (some highBound)
  | some bound, none =>
    .compare (if low.included then .greaterEqual else .greater) (some field) (some bound)
  | none, bound =>
    .compare (if high.included then .lessEqual else .less) (some field) bound

mutual

/-- The skeleton that an expression is written for. -/
def ofStructured : Structured → Skeleton
  | .term field operand => .compare .equal field (some operand)
  | .notTerm field operand => .compare .notEqual field (some operand)
  | .phrase field operand => .compare .contains field (some operand)
  | .start field operand => .compare .starts field (some operand)
  | .range field low high => ofRange field low high
  | .not inner => .not (ofStructured inner)
  | .all parts => .all (ofStructuredAll parts)
  | .any parts => .any (ofStructuredAll parts)

/-- The skeletons that some expressions are written for. -/
def ofStructuredAll : List Structured → List Skeleton
  | [] => []
  | part :: rest => ofStructured part :: ofStructuredAll rest

end

end Skeleton

/-! ## What compilation gives -/

variable {parser : Parser} {schema : Schema}

/-- An operand stands bare only where the literal is a number. -/
lemma readable_of_operand {attr : Attribute} {value : FieldValue} {o : Operand}
    (h : operand parser schema attr value = .ok o) : o.Readable := by
  rw [operand] at h
  generalize hvalue : value.forKind (schema.fieldKind? attr.path) = literal at h
  split at h
  · exact nomatch h
  next term hterm =>
    obtain rfl := Except.ok.inj h
    split
    next hbare =>
      rw [Bool.and_eq_true] at hbare
      cases literal with
      | integer n =>
        obtain rfl := Option.some.inj hterm
        exact Decimal.isNumeral_wholeText n
      | double x =>
        obtain rfl := Option.some.inj hterm
        exact Decimal.Layout.isNumeral_text (fun _ => rfl) x
      | _ => exact absurd hbare.1 (by simp [isNumber])
    next => trivial

/-- The parser shows in errors only. -/
lemma operand?_of_operand {attr : Attribute} {value : FieldValue} {o : Operand}
    (h : operand parser schema attr value = .ok o) : operand? schema attr value = some o := by
  rw [operand] at h
  rw [operand?, operand]
  split at h
  · exact nomatch h
  next term =>
    rw [Except.ok.inj h]
    rfl

lemma fieldOf_of_concreteField {attr : Attribute} {part : PartKind} {field : String}
    (h : concreteField parser attr part = .ok field) : fieldOf attr = some field := by
  rw [concreteField] at h
  split at h
  · exact nomatch h
  next hconcrete =>
    rw [fieldOf, if_neg hconcrete, Except.ok.inj h]

/-- A flat name has a space only where the path has one. -/
lemma readableField_fieldOf {attr : Attribute} (h : ' ' ∉ attr.path.toList) :
    ReadableField (fieldOf attr) := by
  intro name hname
  rw [fieldOf] at hname
  split at hname
  · exact nomatch hname
  · obtain rfl := Option.some.inj hname
    rw [Attribute.flatName, FieldName.ofPath, String.toList_ofList, List.mem_flatMap]
    rintro ⟨c, hc, hspace⟩
    split at hspace
    · exact absurd hspace (by decide)
    · exact h (List.mem_singleton.1 hspace ▸ hc)

lemma readable_unbounded : RangeSide.unbounded.Readable := fun _ h => nomatch h

lemma Operand.Readable.side {o : Operand} (h : o.Readable) {included : Bool} :
    RangeSide.Readable ⟨included, some o⟩ :=
  fun _ ho => Option.some.inj ho ▸ h

/-- What the range on one side of a literal is made of. -/
lemma exists_of_openRange {part : PartKind} {attr : Attribute} {value : FieldValue}
    {sides : RangeSide → RangeSide × RangeSide} {included : Bool} {e : Structured}
    (h : openRange parser schema part attr value sides included = .ok e) :
    ∃ field o, fieldOf attr = some field ∧ operand parser schema attr value = .ok o ∧
      e = .range field (sides ⟨included, some o⟩).1 (sides ⟨included, some o⟩).2 := by
  obtain ⟨field, hfield, h⟩ := exists_of_bind_eq_ok h
  obtain ⟨o, ho, h⟩ := exists_of_bind_eq_ok h
  exact ⟨field, o, fieldOf_of_concreteField hfield, ho, (Except.ok.inj h).symm⟩

/-- What the expression of a comparison is made of: the operand of the literal, which is
all that can be unreadable besides the field, and the skeleton of the comparison. -/
lemma exists_of_compileComparison {comparison : Comparison} {attr : Attribute}
    {value : FieldValue} {e : Structured}
    (h : compileComparison parser schema comparison attr value = .ok e) :
    ∃ o, operand parser schema attr value = .ok o ∧
      (ReadableField (fieldOf attr) → o.Readable → e.Readable) ∧
      Skeleton.ofStructured e = .compare comparison.form (fieldOf attr) (some o) := by
  -- four of the forms apply `make` to the field and the operand
  have hsingle : ∀ {make : Option String → Operand → Structured},
      (operand parser schema attr value).map (make (fieldOf attr)) = .ok e →
      ∃ o, operand parser schema attr value = .ok o ∧ e = make (fieldOf attr) o := by
    intro make h
    obtain ⟨o, ho, he⟩ := exists_of_map_eq_ok h
    exact ⟨o, ho, he.symm⟩
  cases comparison with
  | equal | notEqual | contains | freeText | starts =>
    obtain ⟨o, ho, rfl⟩ := hsingle h
    exact ⟨o, ho, fun hfield hread => ⟨hfield, hread⟩, rfl⟩
  | greater | greaterEqual =>
    rw [compileComparison] at h
    obtain ⟨field, o, hfield, ho, rfl⟩ := exists_of_openRange h
    rw [hfield]
    exact ⟨o, ho, fun hspace hread => ⟨hspace, hread.side, readable_unbounded⟩, rfl⟩
  | less | lessEqual =>
    rw [compileComparison] at h
    obtain ⟨field, o, hfield, ho, rfl⟩ := exists_of_openRange h
    rw [hfield]
    exact ⟨o, ho, fun hspace hread => ⟨hspace, readable_unbounded, hread.side⟩, rfl⟩
  | fuzzy => exact nomatch h

/-- What the expression of a range with two bounds is made of. -/
lemma exists_of_compile_between {bounds : Bounds} {attr : Attribute} {low high : FieldValue}
    {e : Structured} (h : compile parser schema (.between bounds attr low high) = .ok e) :
    ∃ field lowBound highBound, fieldOf attr = some field ∧
      operand parser schema attr low = .ok lowBound ∧
      operand parser schema attr high = .ok highBound ∧
      e = .range field ⟨bounds.lowIncluded, some lowBound⟩
        ⟨bounds.highIncluded, some highBound⟩ := by
  obtain ⟨field, hfield, h⟩ := exists_of_bind_eq_ok h
  obtain ⟨lowBound, hlow, h⟩ := exists_of_bind_eq_ok h
  obtain ⟨highBound, hhigh, h⟩ := exists_of_bind_eq_ok h
  exact ⟨field, lowBound, highBound, fieldOf_of_concreteField hfield, hlow, hhigh,
    (Except.ok.inj h).symm⟩

/-- Every criterion of a list gives one of the expressions. -/
lemma exists_of_compileAll_cons {criterion : Criterion} {rest : List Criterion}
    {parts : List Structured} (h : compileAll parser schema (criterion :: rest) = .ok parts) :
    ∃ part others, compile parser schema criterion = .ok part ∧
      compileAll parser schema rest = .ok others ∧ parts = part :: others := by
  obtain ⟨part, hpart, h⟩ := exists_of_bind_eq_ok h
  obtain ⟨others, hothers, h⟩ := exists_of_bind_eq_ok h
  exact ⟨part, others, hpart, hothers, (Except.ok.inj h).symm⟩

mutual

/-- What is compiled from attributes without spaces is readable. -/
theorem readable_of_compile (criterion : Criterion)
    (hspace : ∀ attr ∈ criterion.attributes, ' ' ∉ attr.path.toList) {e : Structured}
    (h : compile parser schema criterion = .ok e) : e.Readable := by
  match criterion with
  | .compare comparison attr value =>
    obtain ⟨o, ho, hread, -⟩ := exists_of_compileComparison h
    exact hread (readableField_fieldOf (hspace attr (List.mem_singleton_self attr)))
      (readable_of_operand ho)
  | .between bounds attr low high =>
    obtain ⟨field, lowBound, highBound, hfield, hlow, hhigh, rfl⟩ := exists_of_compile_between h
    refine ⟨?_, (readable_of_operand hlow).side, (readable_of_operand hhigh).side⟩
    rw [← hfield]
    exact readableField_fieldOf (hspace attr (List.mem_singleton_self attr))
  | .not inner =>
    obtain ⟨part, hpart, rfl⟩ := exists_of_map_eq_ok h
    show part.Readable
    exact readable_of_compile inner hspace hpart
  | .all criteria =>
    obtain ⟨parts, hparts, rfl⟩ := exists_of_map_eq_ok h
    show Structured.ReadableAll parts
    exact readableAll_of_compileAll criteria hspace hparts
  | .any criteria =>
    obtain ⟨parts, hparts, rfl⟩ := exists_of_map_eq_ok h
    show Structured.ReadableAll parts
    exact readableAll_of_compileAll criteria hspace hparts

/-- The same of some criteria. -/
theorem readableAll_of_compileAll (criteria : List Criterion)
    (hspace : ∀ attr ∈ Criterion.attributesAll criteria, ' ' ∉ attr.path.toList)
    {parts : List Structured} (h : compileAll parser schema criteria = .ok parts) :
    Structured.ReadableAll parts := by
  match criteria with
  | [] =>
    obtain rfl := Except.ok.inj h
    trivial
  | criterion :: rest =>
    obtain ⟨part, others, hpart, hothers, rfl⟩ := exists_of_compileAll_cons h
    constructor
    · exact readable_of_compile criterion
        (fun attr hattr => hspace attr (List.mem_append_left _ hattr)) hpart
    · exact readableAll_of_compileAll rest
        (fun attr hattr => hspace attr (List.mem_append_right _ hattr)) hothers

end

mutual

/-- The expression of a criterion is written for the skeleton of the criterion. -/
theorem ofStructured_of_compile (criterion : Criterion) {e : Structured}
    (h : compile parser schema criterion = .ok e) :
    Skeleton.ofStructured e = Skeleton.ofCriterion schema criterion := by
  match criterion with
  | .compare comparison attr value =>
    obtain ⟨o, ho, -, hskeleton⟩ := exists_of_compileComparison h
    rw [hskeleton, Skeleton.ofCriterion, operand?_of_operand ho]
  | .between bounds attr low high =>
    obtain ⟨field, lowBound, highBound, hfield, hlow, hhigh, rfl⟩ := exists_of_compile_between h
    rw [Skeleton.ofCriterion, hfield, operand?_of_operand hlow, operand?_of_operand hhigh]
    rfl
  | .not inner =>
    obtain ⟨part, hpart, rfl⟩ := exists_of_map_eq_ok h
    rw [Skeleton.ofStructured, Skeleton.ofCriterion, ofStructured_of_compile _ hpart]
  | .all criteria =>
    obtain ⟨parts, hparts, rfl⟩ := exists_of_map_eq_ok h
    rw [Skeleton.ofStructured, Skeleton.ofCriterion, ofStructuredAll_of_compileAll _ hparts]
  | .any criteria =>
    obtain ⟨parts, hparts, rfl⟩ := exists_of_map_eq_ok h
    rw [Skeleton.ofStructured, Skeleton.ofCriterion, ofStructuredAll_of_compileAll _ hparts]

/-- The same of some criteria. -/
theorem ofStructuredAll_of_compileAll (criteria : List Criterion) {parts : List Structured}
    (h : compileAll parser schema criteria = .ok parts) :
    Skeleton.ofStructuredAll parts = Skeleton.ofCriteria schema criteria := by
  match criteria with
  | [] =>
    obtain rfl := Except.ok.inj h
    rfl
  | criterion :: rest =>
    obtain ⟨part, others, hpart, hothers, rfl⟩ := exists_of_compileAll_cons h
    rw [Skeleton.ofStructuredAll, Skeleton.ofCriteria, ofStructured_of_compile _ hpart,
      ofStructuredAll_of_compileAll _ hothers]

end

/-- The structured text of a criterion can be read back. -/
lemma exists_of_structuredText {criterion : Criterion}
    (hspace : ∀ attr ∈ criterion.attributes, ' ' ∉ attr.path.toList) {text : String}
    (h : structuredText parser schema criterion = .ok text) :
    ∃ e, compile parser schema criterion = .ok e ∧ Structured.read? text = some e := by
  obtain ⟨e, he, rfl⟩ := exists_of_map_eq_ok h
  exact ⟨e, he, Structured.read?_render (readable_of_compile criterion hspace he)⟩

/-- Criteria whose structured texts are equal have equal skeletons, whatever their literals
contain. -/
theorem skeleton_eq_of_structuredText_eq {a b : Criterion}
    (ha : ∀ attr ∈ a.attributes, ' ' ∉ attr.path.toList)
    (hb : ∀ attr ∈ b.attributes, ' ' ∉ attr.path.toList) {text : String}
    (hatext : structuredText parser schema a = .ok text)
    (hbtext : structuredText parser schema b = .ok text) :
    Skeleton.ofCriterion schema a = Skeleton.ofCriterion schema b := by
  obtain ⟨e, hae, hread⟩ := exists_of_structuredText ha hatext
  obtain ⟨e', hbe, hread'⟩ := exists_of_structuredText hb hbtext
  -- the text determines the expression, and the expression determines the skeleton
  obtain rfl : e = e' := Option.some.inj (hread.symm.trans hread')
  rw [← ofStructured_of_compile a hae, ofStructured_of_compile b hbe]

/-- Free text and containment of a literal with an apostrophe, a parenthesis and a backslash. -/
theorem skeleton_eq_of_quotes :
    let schema : Schema := ⟨[("year", .field (.ofKind .integer))]⟩
    let criterion (comparison : Comparison) : Criterion :=
      .all [.not (.compare comparison ⟨"author.name"⟩ (.text "') (or \\")), .any [],
        .compare .greater ⟨"year"⟩ (.integer 1990)]
    let text := "(and (not (phrase field=author__name '\\') (or \\\\')) (or ) " ++
      "(range field=year \x7b1990,\x7d))"
    structuredText .structured schema (criterion .contains) = .ok text ∧
      structuredText .structured schema (criterion .freeText) = .ok text ∧
      Skeleton.ofCriterion schema (criterion .contains) =
        Skeleton.ofCriterion schema (criterion .freeText) := by
  intro schema criterion text
  have hspace : ∀ comparison, ∀ attr ∈ (criterion comparison).attributes,
      ' ' ∉ attr.path.toList := by
    intro comparison
    show ∀ attr ∈ [⟨"author.name"⟩, ⟨"year"⟩], ' ' ∉ (Attribute.path attr).toList
    decide
  have hcontains : structuredText .structured schema (criterion .contains) = .ok text :=
    congrArg Except.ok (by decide +kernel)
  have hfreeText : structuredText .structured schema (criterion .freeText) = .ok text :=
    congrArg Except.ok (by decide +kernel)
  exact ⟨hcontains, hfreeText,
    skeleton_eq_of_structuredText_eq (hspace _) (hspace _) hcontains hfreeText⟩

end CloudSearch
end SearchGateway
