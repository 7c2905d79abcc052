import SearchGateway.CloudSearch.Request
import SearchGateway.Elasticsearch.Criteria
import SearchGateway.Proofs.DayCount
import SearchGateway.Proofs.TimestampTexts

/-!
# Normal timestamps

One second can be written in many ways: on clocks with different offsets, with and without a
fraction.  On a date field a literal becomes an instant and is written again, in universal time and
without the fraction.  What is written then is a normal form of the text: it is read as the whole
second (`parse?_format`), and two texts have the same normal form just when they mean the same
second (`normalText?_eq_iff`).

Criteria whose literals on date fields mean the same seconds have therefore the same compiled form
on both engines.  As a criterion is a tree, this goes by recursion on two trees of the same shape
(`Criterion.Redated`); only the operands and literals at the leaves need a closer look.
-/
namespace SearchGateway

/-! ## Texts -/

namespace Calendar.Timestamp

variable {shown shown' t t' : Instant} {offset : Int} {cs : List Char} {text text' : String}

/-- The text that stands for another one after it was read as a date. -/
def normalText? (text : String) : Option String := (parse? text).map format

/-- Texts of what two clocks show in the same second. -/
def SameSecond (text text' : String) : Prop :=
  ∃ shown offset shown' offset', Written shown offset text.toList ∧
    Written shown' offset' text'.toList ∧
    shown.minuteNumber - offset = shown'.minuteNumber - offset' ∧ shown.second = shown'.second

lemma Written.minuteNumber_ofLocal (h : Written shown offset cs) :
    (Instant.ofLocal shown offset).minuteNumber = shown.minuteNumber - offset := by
  cases h with
  | chars _ _ _ _ hzone => exact Instant.minuteNumber_ofLocal hzone.bounds.1 hzone.bounds.2 shown

/-- The instant that is read is the only one that the clock can mean. -/
theorem parse?_eq_some_iff :
    parse? text = some t ↔
      ∃ shown offset, Written shown offset text.toList ∧
        t.minuteNumber = shown.minuteNumber - offset ∧ t.second = shown.second ∧
        t.nano = shown.nano := by
  rw [parse?, parseChars?_eq_some_iff]
  constructor
  · rintro ⟨shown, offset, h, rfl⟩
    exact ⟨shown, offset, h, h.minuteNumber_ofLocal, rfl, rfl⟩
  · rintro ⟨shown, offset, h, hminutes, hsecond, hnano⟩
    refine ⟨shown, offset, h, ?_⟩
    rw [← h.minuteNumber_ofLocal] at hminutes
    exact Instant.eq_of_minuteNumber_eq hminutes hsecond hnano

/-- Reading a timestamp back gives the whole second. -/
theorem parse?_format (h : 0 ≤ t.date.year ∧ t.date.year ≤ 9999) :
    parse? (format t) = some t.wholeSecond := by
  rw [parse?, format, String.toList_ofList, parseChars?_of_written (written_formatChars h),
    Instant.ofLocal_zero]

lemma parseChars?_cons_of_isDigit_eq_false {c : Char} (hc : c.isDigit = false)
    (cs : List Char) : parseChars? (c :: cs) = none := by
  have hyear : takeNumber? 4 (c :: cs) = none := by simp [takeNumber?, hc]
  rw [parseChars?, hyear]
  rfl

/-- The year is not read when it has a sign. -/
lemma parse?_format_eq_none (h : ¬(0 ≤ t.date.year ∧ t.date.year ≤ 9999)) :
    parse? (format t) = none := by
  rw [parse?, format, String.toList_ofList, formatChars, yearChars, if_neg h]
  simp only [List.cons_append]
  apply parseChars?_cons_of_isDigit_eq_false
  split <;> rfl

example : normalText? "9999-12-31T23:59:60.5-00:30" = some "+10000-01-01T00:29:60Z" := by
  decide +kernel

lemma format_wholeSecond (t : Instant) : format t.wholeSecond = format t := rfl

lemma sameSecond_iff :
    SameSecond text text' ↔
      ∃ t t', parse? text = some t ∧ parse? text' = some t' ∧ t.wholeSecond = t'.wholeSecond := by
  simp only [Instant.wholeSecond_eq_iff]
  constructor
  · rintro ⟨shown, offset, shown', offset', h, h', hminutes, hsecond⟩
    rw [← h.minuteNumber_ofLocal, ← h'.minuteNumber_ofLocal] at hminutes
    exact ⟨_, _, parseChars?_of_written h, parseChars?_of_written h', hminutes, hsecond⟩
  · rintro ⟨t, t', ht, ht', hminutes, hsecond⟩
    obtain ⟨shown, offset, h, hm, hs, -⟩ := parse?_eq_some_iff.1 ht
    obtain ⟨shown', offset', h', hm', hs', -⟩ := parse?_eq_some_iff.1 ht'
    exact ⟨shown, offset, shown', offset', h, h', by omega, by omega⟩

lemma exists_format_of_sameSecond (h : SameSecond text text') :
    ∃ t t', parse? text = some t ∧ parse? text' = some t' ∧ format t = format t' := by
  obtain ⟨t, t', ht, ht', hsecond⟩ := sameSecond_iff.1 h
  refine ⟨t, t', ht, ht', ?_⟩
  rw [← format_wholeSecond t, hsecond, format_wholeSecond]

/-- Texts mean the same second just when they have the same normal form. -/
lemma normalText?_eq_iff (ht : parse? text = some t)
    (hyear : 0 ≤ t.date.year ∧ t.date.year ≤ 9999) :
    normalText? text' = normalText? text ↔ SameSecond text text' := by
  constructor
  · intro h
    rw [normalText?, normalText?, ht, Option.map_some, Option.map_eq_some_iff] at h
    obtain ⟨t', ht', hformat⟩ := h
    have hback := parse?_format hyear
    rw [← hformat] at hback
    by_cases hyear' : 0 ≤ t'.date.year ∧ t'.date.year ≤ 9999
    · rw [parse?_format hyear'] at hback
      exact sameSecond_iff.2 ⟨t, t', ht, ht', (Option.some.inj hback).symm⟩
    · rw [parse?_format_eq_none hyear'] at hback
      exact nomatch hback
  · intro h
    obtain ⟨u, u', hu, hu', hformat⟩ := exists_format_of_sameSecond h
    rw [normalText?, normalText?, hu, hu', Option.map_some, Option.map_some, hformat]

end Calendar.Timestamp

/-! ## Literals -/

open Calendar.Timestamp (SameSecond exists_format_of_sameSecond)

namespace FieldValue

variable {value value' : FieldValue}

/-- Literals that differ in the texts of dates only, and these mean the same seconds. -/
inductive SameDates : FieldValue → FieldValue → Prop
  | refl (value : FieldValue) : SameDates value value
  | text {text text' : String} (h : SameSecond text text') : SameDates (.text text) (.text text')
  | cons {item item' : FieldValue} {items items' : List FieldValue} (first : SameDates item item')
      (rest : SameDates (.list items) (.list items')) :
      SameDates (.list (item :: items)) (.list (item' :: items'))

lemma asDate_text {text : String} {t : Calendar.Instant}
    (ht : Calendar.Timestamp.parse? text = some t) : (FieldValue.text text).asDate = .date t := by
  rw [asDate, ht]

lemma toJson_asDate_eq (h : SameDates value value') :
    value.asDate.toJson = value'.asDate.toJson := by
  induction h with
  | refl => rfl
  | text h =>
    obtain ⟨t, t', ht, ht', hformat⟩ := exists_format_of_sameSecond h
    rw [asDate_text ht, asDate_text ht', toJson, toJson, hformat]
  | cons _ _ first rest =>
    simp only [asDate, toJson, Json.arr.injEq] at rest
    simp only [asDate, itemsAsDates, toJson, itemsToJson, first, rest]

/-- As a term of a query, a literal on a date field is bare or quoted alike. -/
lemma term?_asDate_eq (h : SameDates value value') :
    value.asDate.term? = value'.asDate.term? ∧
      CloudSearch.isNumber value.asDate = CloudSearch.isNumber value'.asDate := by
  cases h with
  | refl => exact ⟨rfl, rfl⟩
  | text h =>
    obtain ⟨t, t', ht, ht', hformat⟩ := exists_format_of_sameSecond h
    rw [asDate_text ht, asDate_text ht', term?, term?, hformat]
    exact ⟨rfl, rfl⟩
  | cons => simp [asDate, term?, CloudSearch.isNumber]

end FieldValue

/-! ## Criteria -/

/-- A declared field whose values are dates. -/
structure IsDateField (schema : Schema) (attr : Attribute) : Prop where
  ne_wildcard : attr.isWildcard = false
  isDate : ∃ kind, schema.fieldKind? attr.path = some kind ∧ kind.isDate = true

mutual

/-- Criteria of the same shape whose literals on date fields mean the same seconds. -/
inductive Criterion.Redated (schema : Schema) : Criterion → Criterion → Prop
  | refl (criterion : Criterion) : Criterion.Redated schema criterion criterion
  | compare (comparison : Comparison) {attr : Attribute} (hfield : IsDateField schema attr)
      {value value' : FieldValue} (h : value.SameDates value') :
      Criterion.Redated schema (.compare comparison attr value) (.compare comparison attr value')
  | between (bounds : Bounds) {attr : Attribute} (hfield : IsDateField schema attr)
      {low low' high high' : FieldValue} (hlow : low.SameDates low')
      (hhigh : high.SameDates high') :
      Criterion.Redated schema (.between bounds attr low high) (.between bounds attr low' high')
  | not {criterion criterion' : Criterion} (h : Criterion.Redated schema criterion criterion') :
      Criterion.Redated schema (.not criterion) (.not criterion')
  | all {criteria criteria' : List Criterion} (h : Criterion.RedatedAll schema criteria criteria') :
      Criterion.Redated schema (.all criteria) (.all criteria')
  | any {criteria criteria' : List Criterion} (h : Criterion.RedatedAll schema criteria criteria') :
      Criterion.Redated schema (.any criteria) (.any criteria')

/-- Lists of such criteria. -/
inductive Criterion.RedatedAll (schema : Schema) : List Criterion → List Criterion → Prop
  | nil : Criterion.RedatedAll schema [] []
  | cons {criterion criterion' : Criterion} {criteria criteria' : List Criterion}
      (first : Criterion.Redated schema criterion criterion')
      (rest : Criterion.RedatedAll schema criteria criteria') :
      Criterion.RedatedAll schema (criterion :: criteria) (criterion' :: criteria')

end

open Criterion (Redated RedatedAll)

variable {schema : Schema} {attr : Attribute} {value value' : FieldValue}

lemma IsDateField.forKind_eq (hfield : IsDateField schema attr) (value : FieldValue) :
    value.forKind (schema.fieldKind? attr.path) = value.asDate := by
  obtain ⟨kind, hkind, hdate⟩ := hfield.isDate
  rw [hkind, FieldValue.forKind, if_pos hdate]

namespace CloudSearch

variable {parser : Parser} {c c' : Criterion}

lemma operand_eq_of_sameDates (hfield : IsDateField schema attr) (h : value.SameDates value') :
    operand parser schema attr value = operand parser schema attr value' := by
  obtain ⟨hterm, hnumber⟩ := FieldValue.term?_asDate_eq h
  simp only [operand, hfield.forKind_eq, hterm, hnumber]

lemma compileComparison_eq_of_sameDates (comparison : Comparison)
    (hfield : IsDateField schema attr) (h : value.SameDates value') :
    compileComparison parser schema comparison attr value =
      compileComparison parser schema comparison attr value' := by
  have hoperand : operand parser schema attr value = operand parser schema attr value' :=
    operand_eq_of_sameDates hfield h
  cases comparison <;> simp only [compileComparison, openRange, hoperand]

mutual

/-- The structured language does not tell texts of the same second apart. -/
theorem compile_eq_of_redated {c c' : Criterion} (h : Redated schema c c') :
    compile parser schema c = compile parser schema c' := by
  cases h with
  | refl => rfl
  | compare comparison hfield h => exact compileComparison_eq_of_sameDates comparison hfield h
  | between bounds hfield hlow hhigh =>
    rw [compile, compile, operand_eq_of_sameDates hfield hlow,
      operand_eq_of_sameDates hfield hhigh]
  | not h => rw [compile, compile, compile_eq_of_redated h]
  | all h => rw [compile, compile, compileAll_eq_of_redatedAll h]
  | any h => rw [compile, compile, compileAll_eq_of_redatedAll h]

theorem compileAll_eq_of_redatedAll {cs cs' : List Criterion} (h : RedatedAll schema cs cs') :
    compileAll parser schema cs = compileAll parser schema cs' := by
  cases h with
  | nil => rfl
  | cons first rest =>
    rw [compileAll, compileAll, compile_eq_of_redated first, compileAll_eq_of_redatedAll rest]

end

/-- The simple language has no form for date fields. -/
lemma simpleText_eq_of_redated (h : Redated schema c c') : simpleText c = simpleText c' := by
  cases h with
  | refl => rfl
  | compare comparison hfield h =>
    simp only [simpleText, hfield.ne_wildcard]
    rfl
  | between => rfl
  | not => rfl
  | all => rfl
  | any => rfl

lemma criterionText_eq_of_redated (h : Redated schema c c') :
    criterionText parser schema c = criterionText parser schema c' := by
  cases parser with
  | structured => rw [criterionText, criterionText, structuredText, structuredText,
      compile_eq_of_redated h]
  | simple => exact simpleText_eq_of_redated h

end CloudSearch

namespace Elasticsearch

lemma literal_eq_of_sameDates (hfield : IsDateField schema attr) (h : value.SameDates value') :
    literal schema attr value = literal schema attr value' := by
  simp only [literal, typedLiteral, hfield.forKind_eq, FieldValue.toJson_asDate_eq h]

lemma patternTerm_eq_of_sameDates (hfield : IsDateField schema attr)
    (h : value.SameDates value') :
    patternTerm schema attr value = patternTerm schema attr value' := by
  simp only [patternTerm, typedLiteral, hfield.forKind_eq, (FieldValue.term?_asDate_eq h).1]

lemma compileComparison_eq_of_sameDates (comparison : Comparison)
    (hfield : IsDateField schema attr) (h : value.SameDates value') :
    compileComparison schema comparison attr value =
      compileComparison schema comparison attr value' := by
  have hliteral := literal_eq_of_sameDates hfield h
  have hpattern := patternTerm_eq_of_sameDates hfield h
  cases comparison <;> simp only [compileComparison, openRange, hliteral, hpattern]

mutual

/-- Nor does the other engine. -/
theorem compile_eq_of_redated {c c' : Criterion} (h : Redated schema c c') :
    compile schema c = compile schema c' := by
  cases h with
  | refl => rfl
  | compare comparison hfield h => exact compileComparison_eq_of_sameDates comparison hfield h
  | between bounds hfield hlow hhigh =>
    rw [compile, compile, literal_eq_of_sameDates hfield hlow,
      literal_eq_of_sameDates hfield hhigh]
  | not h => rw [compile, compile, compile_eq_of_redated h]
  | all h => rw [compile, compile, compileAll_eq_of_redatedAll h]
  | any h => rw [compile, compile, compileAll_eq_of_redatedAll h]

theorem compileAll_eq_of_redatedAll {cs cs' : List Criterion} (h : RedatedAll schema cs cs') :
    compileAll schema cs = compileAll schema cs' := by
  cases h with
  | nil => rfl
  | cons first rest =>
    rw [compileAll, compileAll, compile_eq_of_redated first, compileAll_eq_of_redatedAll rest]

end

end Elasticsearch

/-! ## Normal forms -/

open Calendar.Timestamp (parse? format normalText? Written parse?_eq_some_iff parse?_format
  format_wholeSecond sameSecond_iff normalText?_eq_iff)

/-- **Timestamps are normal forms.**  The timestamp of an instant in a year of four digits is read
as its whole second; a leap second is read as a leap second.  The texts that are accepted are those
that a clock with an offset shows, with or without a fraction, and they mean the instant that is
earlier by the offset.  If it is in a year of four digits, the normal form of the text is accepted,
means the same second and is its own normal form, and it is the normal form of the texts of this
second and of no others.  Criteria whose literals on date fields mean the same seconds are compiled
to the same on both engines. -/
theorem timestamps_have_normal_forms :
    (∀ t : Calendar.Instant, 0 ≤ t.date.year ∧ t.date.year ≤ 9999 →
      parse? (format t) = some t.wholeSecond) ∧
    (∀ (text : String) (t : Calendar.Instant), parse? text = some t ↔
      ∃ shown offset, Written shown offset text.toList ∧
        t.minuteNumber = shown.minuteNumber - offset ∧ t.second = shown.second ∧
        t.nano = shown.nano) ∧
    (∀ (text : String) (t : Calendar.Instant), parse? text = some t →
      0 ≤ t.date.year ∧ t.date.year ≤ 9999 →
      ∃ normal, normalText? text = some normal ∧ SameSecond text normal ∧
        normalText? normal = some normal ∧
        ∀ text', normalText? text' = some normal ↔ SameSecond text text') ∧
    ∀ (schema : Schema) (c c' : Criterion), Redated schema c c' →
      (∀ parser, CloudSearch.criterionText parser schema c =
          CloudSearch.criterionText parser schema c' ∧
        CloudSearch.structuredText parser schema c =
          CloudSearch.structuredText parser schema c') ∧
      Elasticsearch.compile schema c = Elasticsearch.compile schema c' := by
  refine ⟨fun t => parse?_format, fun text t => parse?_eq_some_iff, ?_, ?_⟩
  · intro text t ht hyear
    have hnormal : normalText? text = some (format t) := by rw [normalText?, ht, Option.map_some]
    have hback : parse? (format t) = some t.wholeSecond := parse?_format hyear
    refine ⟨format t, hnormal, sameSecond_iff.2 ⟨t, t.wholeSecond, ht, hback, rfl⟩, ?_, ?_⟩
    · rw [normalText?, hback, Option.map_some, format_wholeSecond]
    · intro text'
      rw [← hnormal]
      exact normalText?_eq_iff ht hyear
  · intro schema c c' h
    refine ⟨fun parser => ⟨CloudSearch.criterionText_eq_of_redated h, ?_⟩,
      Elasticsearch.compile_eq_of_redated h⟩
    rw [CloudSearch.structuredText, CloudSearch.structuredText, CloudSearch.compile_eq_of_redated h]

/-- A leap second that is at the end of a leap day on one clock, and in March on another. -/
theorem timestamps_have_normal_forms_of_leap_second :
    let schema : Schema := ⟨[("born", .field (.ofKind .date))]⟩
    let text := "2024-02-29T23:59:60.25-00:30"
    let text' := "2024-03-01t00:29:60z"
    let c := Criterion.compare .less ⟨"born"⟩ (.text text)
    let c' := Criterion.compare .less ⟨"born"⟩ (.text text')
    normalText? text = some "2024-03-01T00:29:60Z" ∧ SameSecond text text' ∧ Redated schema c c' ∧
      Elasticsearch.compile schema c = Elasticsearch.compile schema c' ∧
      CloudSearch.structuredText .structured schema c =
        .ok "(range field=born \x7b,'2024-03-01T00:29:60Z'\x7d)" := by
  intro schema text text' c c'
  obtain ⟨-, -, hforms, hredated⟩ := timestamps_have_normal_forms
  have htext : normalText? text = some "2024-03-01T00:29:60Z" := by decide +kernel
  have htext' : normalText? text' = some "2024-03-01T00:29:60Z" := by decide +kernel
  obtain ⟨t, ht, -⟩ := Option.map_eq_some_iff.1 htext
  have hyear : 0 ≤ t.date.year ∧ t.date.year ≤ 9999 := by
    have hfound : ((parse? text).map fun t => t.date.year) = some 2024 := by decide +kernel
    rw [ht, Option.map_some, Option.some.injEq] at hfound
    omega
  obtain ⟨normal, hnormal, -, -, hiff⟩ := hforms text t ht hyear
  have hsame : SameSecond text text' := by
    rw [← hiff text', htext', ← htext]
    exact hnormal
  have hfield : IsDateField schema ⟨"born"⟩ := ⟨by decide, .date, by decide +kernel, rfl⟩
  have hcriteria : Redated schema c c' := .compare .less hfield (.text hsame)
  exact ⟨htext, hsame, hcriteria, (hredated schema c c' hcriteria).2, by decide +kernel⟩

end SearchGateway
