import Mathlib.Algebra.Group.Nat.Defs
import Mathlib.Data.List.Induction
import Mathlib.Data.List.TakeWhile
import Mathlib.Data.Option.Basic
import Mathlib.Tactic.Lemma
import SearchGateway.Calendar.Timestamp

/-!
# The texts of timestamps

What a timestamp is can be said without reading it: numbers with a fixed number of digits between
separators, perhaps a fraction, and an offset (`Written`).  Reading accepts these texts and no
others, and makes of each of them the instant that a clock with this offset shows
(`parseChars?_eq_some_iff`).

The rules are proved part by part, from left to right: a part is read off the front of a text
exactly when the text is the written form of the part and of what follows it.
-/
namespace SearchGateway

/-! ## Digits -/

namespace Decimal

variable {ds es : List Char} {c : Char}

lemma valueOfDigits_eq (ds : List Char) : valueOfDigits ds = Nat.ofDigitChars 10 ds 0 := by
  rw [valueOfDigits, Nat.ofDigitChars_eq_foldl]

lemma valueOfDigits_append (ds es : List Char) :
    valueOfDigits (ds ++ es) = 10 ^ es.length * valueOfDigits ds + valueOfDigits es := by
  rw [valueOfDigits_eq, Nat.ofDigitChars_append, Nat.ofDigitChars_eq_ofDigitChars_zero,
    ← valueOfDigits_eq, ← valueOfDigits_eq]

lemma toNat_of_isDigit (h : c.isDigit = true) : 48 ≤ c.toNat ∧ c.toNat ≤ 57 := by
  simpa [Char.isDigit, UInt32.le_iff_toNat_le] using h

lemma valueOfDigits_singleton (c : Char) : valueOfDigits [c] = c.toNat - 48 := by
  simp [valueOfDigits]

lemma valueOfDigits_lt (h : ∀ c ∈ ds, c.isDigit = true) : valueOfDigits ds < 10 ^ ds.length := by
  induction ds using List.reverseRecOn with
  | nil => decide
  | append_singleton ds c ih =>
    rw [List.forall_mem_append, List.forall_mem_singleton] at h
    have hds := ih h.1
    have hc := toNat_of_isDigit h.2
    rw [valueOfDigits_append, valueOfDigits_singleton, List.length_append, List.length_singleton,
      Nat.pow_succ]
    omega

/-- Digits are determined by how many they are and by their value. -/
lemma eq_of_valueOfDigits_eq (hds : ∀ c ∈ ds, c.isDigit = true) (hes : ∀ c ∈ es, c.isDigit = true)
    (hlength : ds.length = es.length) (h : valueOfDigits ds = valueOfDigits es) : ds = es := by
  induction ds using List.reverseRecOn generalizing es with
  | nil => exact (List.eq_nil_of_length_eq_zero hlength.symm).symm
  | append_singleton ds c ih =>
    rcases es.eq_nil_or_concat with rfl | ⟨es, e, rfl⟩
    · simp at hlength
    · rw [List.concat_eq_append] at hes hlength h ⊢
      rw [List.forall_mem_append, List.forall_mem_singleton] at hds hes
      rw [List.length_append, List.length_append] at hlength
      rw [valueOfDigits_append, valueOfDigits_append, valueOfDigits_singleton,
        valueOfDigits_singleton, List.length_singleton, List.length_singleton] at h
      have hc := toNat_of_isDigit hds.2
      have he := toNat_of_isDigit hes.2
      have hrest : ds = es := ih hds.1 hes.1 (by simpa using hlength) (by omega)
      have hlast : c = e := Char.toNat_inj.1 (by omega)
      rw [hrest, hlast]

end Decimal

namespace Calendar.Timestamp

open Decimal (valueOfDigits valueOfDigits_eq valueOfDigits_append valueOfDigits_lt
  eq_of_valueOfDigits_eq)

variable {width n : Nat} {cs rest fraction zone : List Char} {nano : Nat} {offset : Int}

lemma isDigit_of_mem_padded {c : Char} (h : c ∈ padded width n) : c.isDigit = true := by
  rw [padded, List.mem_append] at h
  rcases h with h | h
  · obtain rfl := List.eq_of_mem_replicate h
    rfl
  · exact Nat.isDigit_of_mem_toDigits (by omega) (by omega) h

lemma valueOfDigits_padded (width n : Nat) : valueOfDigits (padded width n) = n := by
  rw [valueOfDigits_eq, padded, Nat.ofDigitChars_append, Nat.ofDigitChars_replicate_zero,
    Nat.mul_zero, Nat.ofDigitChars_ten_toDigits]

lemma length_padded (hwidth : 0 < width) (hn : n < 10 ^ width) :
    (padded width n).length = width := by
  have hle := (Nat.length_toDigits_le_iff (by omega) hwidth).2 hn
  rw [padded, List.length_append, List.length_replicate]
  omega

/-- Digits are the padded text of their value. -/
lemma eq_padded {ds : List Char} (hds : ∀ c ∈ ds, c.isDigit = true) (hne : ds ≠ []) :
    ds = padded ds.length (valueOfDigits ds) := by
  have hpos : 0 < ds.length := List.length_pos_iff.2 hne
  refine eq_of_valueOfDigits_eq hds (fun c => isDigit_of_mem_padded) ?_ ?_
  · exact (length_padded hpos (valueOfDigits_lt hds)).symm
  · exact (valueOfDigits_padded _ _).symm

/-- A number with a fixed number of digits is read off the front of a text. -/
lemma takeNumber?_eq_some_iff (hwidth : 0 < width) :
    takeNumber? width cs = some (n, rest) ↔ n < 10 ^ width ∧ cs = padded width n ++ rest := by
  constructor
  · intro h
    simp only [takeNumber?] at h
    split at h
    next hdigits =>
      obtain ⟨hlength, hall⟩ := hdigits
      obtain ⟨rfl, rfl⟩ := Prod.mk.inj (Option.some.inj h)
      rw [List.all_eq_true] at hall
      have hlt := valueOfDigits_lt hall
      have hne : cs.take width ≠ [] := by
        intro hnil
        rw [hnil, List.length_nil] at hlength
        omega
      have hpadded := eq_padded hall hne
      rw [hlength] at hlt hpadded
      refine ⟨hlt, ?_⟩
      rw [← hpadded, List.take_append_drop]
    next => exact nomatch h
  · rintro ⟨hlt, rfl⟩
    have hlength := length_padded hwidth hlt
    have htake : (padded width n ++ rest).take width = padded width n := List.take_left' hlength
    have hdrop : (padded width n ++ rest).drop width = rest := List.drop_left' hlength
    have hall : (padded width n).all Char.isDigit = true :=
      List.all_eq_true.2 fun c => isDigit_of_mem_padded
    simp only [takeNumber?, htake, hdrop]
    rw [if_pos ⟨hlength, hall⟩, valueOfDigits_padded]

lemma skip?_eq_some_iff {p : Char → Bool} :
    skip? p cs = some rest ↔ ∃ c, p c = true ∧ cs = c :: rest := by
  cases cs with
  | nil => simp [skip?]
  | cons c cs =>
    rw [skip?]
    split
    next hc =>
      constructor
      · intro h
        obtain rfl := Option.some.inj h
        exact ⟨c, hc, rfl⟩
      · rintro ⟨c', -, heq⟩
        rw [(List.cons.inj heq).2]
    next hc =>
      refine iff_of_false (by simp) ?_
      rintro ⟨c', hc', heq⟩
      rw [← (List.cons.inj heq).1] at hc'
      exact hc hc'

/-- What is read next, if reading a number is not all. -/
lemma exists_of_takeNumber?_bind {α : Type} {f : Nat × List Char → Option α} {a : α}
    (hwidth : 0 < width) (h : (takeNumber? width cs >>= f) = some a) :
    ∃ n rest, n < 10 ^ width ∧ cs = padded width n ++ rest ∧ f (n, rest) = some a := by
  obtain ⟨⟨n, rest⟩, hnumber, hf⟩ := Option.bind_eq_some_iff.1 h
  obtain ⟨hn, hcs⟩ := (takeNumber?_eq_some_iff hwidth).1 hnumber
  exact ⟨n, rest, hn, hcs, hf⟩

lemma exists_of_skip?_bind {α : Type} {p : Char → Bool} {f : List Char → Option α} {a : α}
    (h : (skip? p cs >>= f) = some a) :
    ∃ c rest, p c = true ∧ cs = c :: rest ∧ f rest = some a := by
  obtain ⟨rest, hskip, hf⟩ := Option.bind_eq_some_iff.1 h
  obtain ⟨c, hc, hcs⟩ := skip?_eq_some_iff.1 hskip
  exact ⟨c, rest, hc, hcs, hf⟩

lemma takeNumber?_padded_bind {α : Type} {f : Nat × List Char → Option α} (hwidth : 0 < width)
    (hn : n < 10 ^ width) : (takeNumber? width (padded width n ++ rest) >>= f) = f (n, rest) := by
  rw [(takeNumber?_eq_some_iff hwidth).2 ⟨hn, rfl⟩]
  rfl

lemma skip?_cons_bind {α : Type} {p : Char → Bool} {f : List Char → Option α} {c : Char}
    (hc : p c = true) : (skip? p (c :: rest) >>= f) = f rest := by
  rw [skip?_eq_some_iff.2 ⟨c, hc, rfl⟩]
  rfl

/-! ## Fractions -/

/-- The written form of a fraction of a second, which may be missing; it is rounded down to whole
nanoseconds. -/
inductive IsFraction : List Char → Nat → Prop
  | none : IsFraction [] 0
  | digits (ds : List Char) (hne : ds ≠ []) (hds : ∀ c ∈ ds, c.isDigit = true) :
      IsFraction ('.' :: ds) (valueOfDigits ds * 10 ^ 9 / 10 ^ ds.length)

/-- Nine digits at most count. -/
lemma valueOfDigits_take_nine {ds : List Char} (hds : ∀ c ∈ ds, c.isDigit = true) :
    valueOfDigits (ds.take 9) * Nat.pow 10 (9 - (ds.take 9).length) =
      valueOfDigits ds * 10 ^ 9 / 10 ^ ds.length := by
  by_cases hlength : ds.length ≤ 9
  · have hnine : 10 ^ 9 = 10 ^ (9 - ds.length) * 10 ^ ds.length := by
      rw [← Nat.pow_add, Nat.sub_add_cancel hlength]
    rw [List.take_of_length_le hlength, hnine, ← Nat.mul_assoc,
      Nat.mul_div_cancel _ (Nat.pow_pos (by omega))]
    rfl
  · -- the value of the digits after the ninth is lost in the division
    have hrest : valueOfDigits (ds.drop 9) < 10 ^ (ds.drop 9).length :=
      valueOfDigits_lt fun c hc => hds c (List.mem_of_mem_drop hc)
    have hsplit := valueOfDigits_append (ds.take 9) (ds.drop 9)
    have hpow : 10 ^ ds.length = 10 ^ (ds.drop 9).length * 10 ^ 9 := by
      rw [← Nat.pow_add, List.length_drop]
      congr 1
      omega
    have htake : (ds.take 9).length = 9 := by
      rw [List.length_take]
      omega
    rw [List.take_append_drop] at hsplit
    rw [htake, hpow, Nat.mul_div_mul_right _ _ (Nat.pow_pos (by omega)), hsplit,
      Nat.mul_add_div (Nat.pow_pos (by omega)), Nat.div_eq_of_lt hrest, Nat.add_zero]
    exact Nat.mul_one _

lemma takeFraction?_of_ne {c : Char} (hc : c ≠ '.') (cs : List Char) :
    takeFraction? (c :: cs) = some (0, c :: cs) := by
  rw [takeFraction?]
  intro rest heq
  exact hc (List.cons.inj heq).1

/-- A fraction is read up to what cannot belong to it. -/
lemma takeFraction?_append {c : Char} (h : IsFraction fraction nano) (hdigit : c.isDigit = false)
    (hpoint : c ≠ '.') (cs : List Char) :
    takeFraction? (fraction ++ c :: cs) = some (nano, c :: cs) := by
  cases h with
  | none => exact takeFraction?_of_ne hpoint cs
  | digits ds hne hds =>
    have htake : (ds ++ c :: cs).takeWhile Char.isDigit = ds := by
      rw [List.takeWhile_append_of_pos hds, List.takeWhile_cons_of_neg (by simp [hdigit]),
        List.append_nil]
    have hdrop : (ds ++ c :: cs).dropWhile Char.isDigit = c :: cs := by
      rw [List.dropWhile_append_of_pos hds, List.dropWhile_cons_of_neg (by simp [hdigit])]
    have hempty : ds.isEmpty = false := by simpa using hne
    simp only [List.cons_append, takeFraction?, htake, hdrop, hempty, valueOfDigits_take_nine hds]
    rfl

lemma exists_of_takeFraction? (h : takeFraction? cs = some (nano, rest)) :
    ∃ fraction, IsFraction fraction nano ∧ cs = fraction ++ rest := by
  rw [takeFraction?.eq_def] at h
  split at h
  next after =>
    simp only at h
    split at h
    · exact nomatch h
    next hempty =>
      obtain ⟨rfl, rfl⟩ := Prod.mk.inj (Option.some.inj h)
      have hds : ∀ c ∈ after.takeWhile Char.isDigit, c.isDigit = true :=
        fun c hc => List.mem_takeWhile_imp hc
      have hne : after.takeWhile Char.isDigit ≠ [] := by simpa using hempty
      refine ⟨'.' :: after.takeWhile Char.isDigit, ?_, ?_⟩
      · rw [valueOfDigits_take_nine hds]
        exact .digits _ hne hds
      · rw [List.cons_append, List.takeWhile_append_dropWhile]
  next =>
    obtain ⟨rfl, rfl⟩ := Prod.mk.inj (Option.some.inj h)
    exact ⟨[], .none, rfl⟩

/-! ## Offsets -/

/-- The written form of an offset from universal time, in minutes. -/
inductive IsZone : List Char → Int → Prop
  | universal (c : Char) (hc : c = 'Z' ∨ c = 'z') : IsZone [c] 0
  | ahead (hours minutes : Nat) (hhours : hours < 24) (hminutes : minutes < 60) :
      IsZone ('+' :: padded 2 hours ++ ':' :: padded 2 minutes) (hours * 60 + minutes)
  | behind (sign : Char) (hsign : sign = '-' ∨ sign = '\u2212') (hours minutes : Nat)
      (hhours : hours < 24) (hminutes : minutes < 60) :
      IsZone (sign :: padded 2 hours ++ ':' :: padded 2 minutes) (-(hours * 60 + minutes))

/-- An offset is less than a day. -/
lemma IsZone.bounds (h : IsZone zone offset) : -1440 < offset ∧ offset < 1440 := by
  cases h <;> omega

/-- No fraction goes on into the offset. -/
lemma IsZone.exists_cons (h : IsZone zone offset) :
    ∃ c cs, zone = c :: cs ∧ c.isDigit = false ∧ c ≠ '.' := by
  cases h with
  | universal c hc => rcases hc with rfl | rfl <;> exact ⟨_, _, rfl, rfl, by decide⟩
  | ahead => exact ⟨_, _, rfl, rfl, by decide⟩
  | behind sign hsign => rcases hsign with rfl | rfl <;> exact ⟨_, _, rfl, rfl, by decide⟩

lemma clock?_eq_some_iff {hours minutes : Nat} :
    clock? cs = some (hours, minutes) ↔
      hours < 24 ∧ minutes < 60 ∧ cs = padded 2 hours ++ ':' :: padded 2 minutes := by
  simp only [clock?, Option.bind_eq_bind, Option.bind_eq_some_iff, Prod.exists,
    takeNumber?_eq_some_iff (show 0 < 2 by decide), skip?_eq_some_iff, Option.guard_eq_some',
    pure, Option.some.injEq, Prod.mk.injEq]
  constructor
  · rintro ⟨_, _, ⟨-, rfl⟩, _, ⟨c, hc, rfl⟩, _, _, ⟨-, rfl⟩, -, ⟨hhours, hminutes, rfl⟩, rfl, rfl⟩
    obtain rfl := beq_iff_eq.1 hc
    refine ⟨hhours, hminutes, ?_⟩
    rw [List.append_nil]
  · rintro ⟨hhours, hminutes, rfl⟩
    refine ⟨hours, _, ⟨by omega, rfl⟩, _, ⟨':', rfl, rfl⟩, minutes, [], ⟨by omega, ?_⟩, ⟨(), ?_⟩⟩
    · rw [List.append_nil]
    · exact ⟨⟨hhours, hminutes, rfl⟩, rfl, rfl⟩

lemma offset?_ahead (cs : List Char) :
    offset? ('+' :: cs) =
      (clock? cs).map fun clock : Nat × Nat => (clock.1 * 60 + clock.2 : Int) := by
  rw [Option.map_eq_bind]
  rfl

lemma offset?_behind {sign : Char} (hsign : sign = '-' ∨ sign = '\u2212') (cs : List Char) :
    offset? (sign :: cs) =
      (clock? cs).map fun clock : Nat × Nat => (-(clock.1 * 60 + clock.2) : Int) := by
  rw [Option.map_eq_bind]
  rcases hsign with rfl | rfl <;> rfl

/-- Reading an offset accepts its written form only. -/
theorem offset?_eq_some_iff : offset? zone = some offset ↔ IsZone zone offset := by
  constructor
  · intro h
    cases zone with
    | nil => exact nomatch h
    | cons sign cs =>
      by_cases hplus : sign = '+'
      · subst hplus
        rw [offset?_ahead, Option.map_eq_some_iff] at h
        obtain ⟨⟨hours, minutes⟩, hclock, rfl⟩ := h
        obtain ⟨hhours, hminutes, rfl⟩ := clock?_eq_some_iff.1 hclock
        exact .ahead hours minutes hhours hminutes
      by_cases hminus : sign = '-' ∨ sign = '\u2212'
      · rw [offset?_behind hminus, Option.map_eq_some_iff] at h
        obtain ⟨⟨hours, minutes⟩, hclock, rfl⟩ := h
        obtain ⟨hhours, hminutes, rfl⟩ := clock?_eq_some_iff.1 hclock
        exact .behind sign hminus hours minutes hhours hminutes
      · -- no sign at all
        rw [offset?.eq_def] at h
        split at h
        next heq =>
          obtain rfl := Option.some.inj h
          rw [heq]
          exact .universal _ (.inl rfl)
        next heq =>
          obtain rfl := Option.some.inj h
          rw [heq]
          exact .universal _ (.inr rfl)
        next sign' _ _ _ heq =>
          rw [← (List.cons.inj heq).1, if_neg hplus, if_neg hminus] at h
          exact nomatch h
        next => exact nomatch h
  · intro h
    cases h with
    | universal c hc => rcases hc with rfl | rfl <;> rfl
    | ahead hours minutes hhours hminutes =>
      rw [List.cons_append, offset?_ahead, clock?_eq_some_iff.2 ⟨hhours, hminutes, rfl⟩]
      rfl
    | behind sign hsign hours minutes hhours hminutes =>
      rw [List.cons_append, offset?_behind hsign, clock?_eq_some_iff.2 ⟨hhours, hminutes, rfl⟩]
      rfl

end Timestamp

/-! ## Dates and times -/

lemma Date.ofParts?_self (d : Date) : Date.ofParts? d.year d.month d.day = some d := by
  simp [Date.ofParts?, d.one_le_month, d.month_le, d.one_le_day, d.day_le]

lemma Date.ofParts?_eq_some_iff {year : Int} {month day : Nat} {date : Date} :
    Date.ofParts? year month day = some date ↔
      date.year = year ∧ date.month = month ∧ date.day = day := by
  constructor
  · intro h
    rw [Date.ofParts?] at h
    split at h
    next =>
      obtain rfl := Option.some.inj h
      exact ⟨rfl, rfl, rfl⟩
    next => cases h
  · rintro ⟨rfl, rfl, rfl⟩
    exact date.ofParts?_self

namespace Timestamp

variable {shown t : Instant}

/-- The time that a clock shows, with what is written between date and time, the fraction and the
offset as given. -/
def chars (shown : Instant) (separator : Char) (fraction zone : List Char) : List Char :=
  padded 4 shown.date.year.natAbs ++ '-' :: (padded 2 shown.date.month ++
    '-' :: (padded 2 shown.date.day ++ separator :: (padded 2 shown.hour ++
      ':' :: (padded 2 shown.minute ++ ':' :: (padded 2 shown.second ++ (fraction ++ zone))))))

/-- The texts of the time that a clock with the given offset shows. -/
inductive Written (shown : Instant) (offset : Int) : List Char → Prop
  | chars (hyear : 0 ≤ shown.date.year ∧ shown.date.year ≤ 9999) (separator : Char)
      (hseparator : separator = 'T' ∨ separator = 't' ∨ separator = ' ')
      (hfraction : IsFraction fraction shown.nano) (hzone : IsZone zone offset) :
      Written shown offset (chars shown separator fraction zone)

lemma exists_written_of_parseChars? (h : parseChars? cs = some t) :
    ∃ shown offset, Written shown offset cs ∧ t = Instant.ofLocal shown offset := by
  have hfour : 0 < 4 := by decide
  have htwo : 0 < 2 := by decide
  obtain ⟨year, _, hyear, hcs₁, h⟩ := exists_of_takeNumber?_bind hfour h
  obtain ⟨dash, _, hdash, hcs₂, h⟩ := exists_of_skip?_bind h
  obtain ⟨month, _, -, hcs₃, h⟩ := exists_of_takeNumber?_bind htwo h
  obtain ⟨dash', _, hdash', hcs₄, h⟩ := exists_of_skip?_bind h
  obtain ⟨day, _, -, hcs₅, h⟩ := exists_of_takeNumber?_bind htwo h
  obtain ⟨separator, _, hseparator, hcs₆, h⟩ := exists_of_skip?_bind h
  obtain ⟨hour, _, -, hcs₇, h⟩ := exists_of_takeNumber?_bind htwo h
  obtain ⟨colon, _, hcolon, hcs₈, h⟩ := exists_of_skip?_bind h
  obtain ⟨minute, _, -, hcs₉, h⟩ := exists_of_takeNumber?_bind htwo h
  obtain ⟨colon', _, hcolon', hcs₁₀, h⟩ := exists_of_skip?_bind h
  obtain ⟨second, _, -, hcs₁₁, h⟩ := exists_of_takeNumber?_bind htwo h
  obtain ⟨⟨nano, zone⟩, htake, h⟩ := Option.bind_eq_some_iff.1 h
  obtain ⟨offset, hoffset, h⟩ := Option.bind_eq_some_iff.1 h
  obtain ⟨date, hparts, hinstant⟩ := Option.bind_eq_some_iff.1 h
  obtain ⟨fraction, hfraction, hcs₁₂⟩ := exists_of_takeFraction? htake
  obtain ⟨hdate, rfl, rfl⟩ := Date.ofParts?_eq_some_iff.1 hparts
  rw [beq_iff_eq] at hdash hdash' hcolon hcolon'
  subst hcs₁₂ hcs₁₁ hcs₁₀ hcs₉ hcs₈ hcs₇ hcs₆ hcs₅ hcs₄ hcs₃ hcs₂ hcs₁ hdash hdash' hcolon hcolon'
  split at hinstant
  next hbounds =>
    obtain rfl := Option.some.inj hinstant
    have hyear' : year = date.year.natAbs := by omega
    have hfourDigits : 0 ≤ date.year ∧ date.year ≤ 9999 := by omega
    refine ⟨⟨date, hour, minute, second, nano, _, _, _, _⟩, offset, ?_, rfl⟩
    rw [hyear']
    exact .chars hfourDigits separator (by simpa [or_assoc] using hseparator) hfraction
      (offset?_eq_some_iff.1 hoffset)
  next => exact nomatch hinstant

lemma parseChars?_of_written (h : Written shown offset cs) :
    parseChars? cs = some (Instant.ofLocal shown offset) := by
  cases h with
  | chars hyear separator hseparator hfraction hzone =>
    have hfour : 0 < 4 := by decide
    have htwo : 0 < 2 := by decide
    have hdate : Date.ofParts? shown.date.year.natAbs shown.date.month shown.date.day =
        some shown.date := by
      rw [Int.natAbs_of_nonneg hyear.1]
      exact shown.date.ofParts?_self
    have hlowYear : shown.date.year.natAbs < 10 ^ 4 := by omega
    have hmonth : shown.date.month < 10 ^ 2 := by
      have := shown.date.month_le
      omega
    have hday : shown.date.day < 10 ^ 2 := by
      have := shown.date.day_le
      have := daysInMonth_le shown.date.year shown.date.month
      omega
    have hhour : shown.hour < 10 ^ 2 := by
      have := shown.hour_lt
      omega
    have hminute : shown.minute < 10 ^ 2 := by
      have := shown.minute_lt
      omega
    have hsecond : shown.second < 10 ^ 2 := by
      have := shown.second_le
      omega
    obtain ⟨c, cs, rfl, hdigit, hpoint⟩ := hzone.exists_cons
    have hfraction := takeFraction?_append hfraction hdigit hpoint cs
    have hseparator : (separator == 'T' || separator == 't' || separator == ' ') = true := by
      simpa [or_assoc] using hseparator
    refine (takeNumber?_padded_bind hfour hlowYear).trans ?_
    refine (skip?_cons_bind rfl).trans ?_
    refine (takeNumber?_padded_bind htwo hmonth).trans ?_
    refine (skip?_cons_bind rfl).trans ?_
    refine (takeNumber?_padded_bind htwo hday).trans ?_
    refine (skip?_cons_bind hseparator).trans ?_
    refine (takeNumber?_padded_bind htwo hhour).trans ?_
    refine (skip?_cons_bind rfl).trans ?_
    refine (takeNumber?_padded_bind htwo hminute).trans ?_
    refine (skip?_cons_bind rfl).trans ?_
    refine (takeNumber?_padded_bind htwo hsecond).trans ?_
    refine Option.bind_eq_some_iff.2 ⟨_, hfraction, ?_⟩
    refine Option.bind_eq_some_iff.2 ⟨_, offset?_eq_some_iff.2 hzone, ?_⟩
    refine Option.bind_eq_some_iff.2 ⟨_, hdate, ?_⟩
    exact dif_pos ⟨shown.hour_lt, shown.minute_lt, shown.second_le, shown.nano_lt⟩

/-- Reading accepts the texts that a clock can show and no others, and makes of such a text the
instant at which the clock shows it. -/
theorem parseChars?_eq_some_iff :
    parseChars? cs = some t ↔
      ∃ shown offset, Written shown offset cs ∧ t = Instant.ofLocal shown offset := by
  constructor
  · exact exists_written_of_parseChars?
  · rintro ⟨shown, offset, h, rfl⟩
    exact parseChars?_of_written h

/-- A timestamp shows its whole second in universal time. -/
lemma written_formatChars (h : 0 ≤ t.date.year ∧ t.date.year ≤ 9999) :
    Written t.wholeSecond 0 (formatChars t) := by
  have hyear : 0 ≤ t.wholeSecond.date.year ∧ t.wholeSecond.date.year ≤ 9999 := h
  have hchars : formatChars t = chars t.wholeSecond 'T' [] ['Z'] := by
    simp [formatChars, yearChars, if_pos h, chars, Instant.wholeSecond]
  rw [hchars]
  exact .chars hyear 'T' (.inl rfl) .none (.universal 'Z' (.inl rfl))

end Calendar.Timestamp
end SearchGateway
