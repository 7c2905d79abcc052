import Mathlib.Tactic.Lemma
import SearchGateway.Document.Value

/-!
# The texts of numbers

A number in a query is written with digits, a minus sign, a point, and the letters of `NaN`
and `inf`, whatever the number is; its text is never empty.  Nothing else about the digits of a
double is needed to tell the text of a number from what stands around it.

The text of a whole number says which number it is: reading it gives the number back
(`wholeOf?_wholeText`).
-/
namespace SearchGateway.Decimal

/-- The characters of the texts of numbers. -/
def isNumeralChar (c : Char) : Bool :=
  c.isDigit || c == '-' || c == '.' || c == 'N' || c == 'a' || c == 'i' || c == 'n' || c == 'f'

/-- A text that looks like the text of a number. -/
structure IsNumeral (text : String) : Prop where
  ne_nil : text.toList ≠ []
  isNumeralChar : ∀ c ∈ text.toList, isNumeralChar c = true

lemma isNumeralChar_of_isDigit {c : Char} (h : c.isDigit = true) : isNumeralChar c = true := by
  simp [isNumeralChar, h]

lemma isNumeralChar_of_mem_toDigits {c : Char} {n : Nat} (h : c ∈ Nat.toDigits 10 n) :
    isNumeralChar c = true :=
  isNumeralChar_of_isDigit (Nat.isDigit_of_mem_toDigits (by omega) (by omega) h)

/-! ## Whole numbers -/

lemma isNumeral_natText (n : Nat) : IsNumeral (natText n) := by
  constructor
  · simp [natText, Nat.toDigits_ne_nil]
  · intro c hc
    rw [natText, String.toList_ofList] at hc
    exact isNumeralChar_of_mem_toDigits hc

lemma isNumeral_wholeText (n : Int) : IsNumeral (wholeText n) := by
  rw [wholeText]
  split
  · refine ⟨by simp, fun c hc => ?_⟩
    rw [String.toList_ofList, List.mem_cons] at hc
    rcases hc with rfl | hc
    · rfl
    · exact isNumeralChar_of_mem_toDigits hc
  · exact isNumeral_natText _

/-- The natural number that decimal digits stand for. -/
def naturalOf? (digits : List Char) : Option Nat :=
  if digits ≠ [] ∧ digits.all Char.isDigit then some (valueOfDigits digits) else none

/-- The whole number that a decimal text stands for. -/
def wholeOf? (text : String) : Option Int :=
  match text.toList with
  | '-' :: digits => (naturalOf? digits).map fun (n : Nat) => -(n : Int)
  | digits => (naturalOf? digits).map fun (n : Nat) => (n : Int)

lemma naturalOf?_toDigits (n : Nat) : naturalOf? (Nat.toDigits 10 n) = some n := by
  have hdigits : (Nat.toDigits 10 n).all Char.isDigit = true :=
    List.all_eq_true.2 fun c hc => Nat.isDigit_of_mem_toDigits (by omega) (by omega) hc
  have hvalue : valueOfDigits (Nat.toDigits 10 n) = n := by
    rw [valueOfDigits, ← Nat.ofDigitChars_eq_foldl, Nat.ofDigitChars_ten_toDigits]
  rw [naturalOf?, if_pos ⟨Nat.toDigits_ne_nil, hdigits⟩, hvalue]

/-- Reading the text of a whole number gives the number back. -/
theorem wholeOf?_wholeText (n : Int) : wholeOf? (wholeText n) = some n := by
  by_cases hneg : n < 0
  · rw [wholeText, if_pos hneg, wholeOf?, String.toList_ofList]
    simp only [naturalOf?_toDigits, Option.map_some, Option.some.injEq]
    omega
  · rw [wholeText, if_neg hneg, natText, wholeOf?, String.toList_ofList]
    split
    next digits hdigits =>
      -- no digit is a minus sign
      have hminus : ('-' : Char).isDigit = true :=
        Nat.isDigit_of_mem_toDigits (by omega) (by omega) (hdigits ▸ List.mem_cons_self)
      exact absurd hminus (by decide)
    next =>
      simp only [naturalOf?_toDigits, Option.map_some, Option.some.injEq]
      omega

/-! ## Doubles -/

lemma isNumeralChar_of_mem_digits {d : Scaled} {c : Char} (h : c ∈ d.digits.1) :
    isNumeralChar c = true := by
  have hmem : c ∈ Nat.toDigits 10 d.coefficient :=
    List.mem_reverse.1 (List.dropWhile_subset _ (List.mem_reverse.1 h))
  exact isNumeralChar_of_mem_toDigits hmem

namespace Layout

variable (l : Layout)

lemma isNumeralChar_of_mem_positionalText {digits : List Char}
    (hdigits : ∀ c ∈ digits, isNumeralChar c = true) (first : Int) {c : Char}
    (h : c ∈ l.positionalText digits first) : isNumeralChar c = true := by
  have hzero : isNumeralChar '0' = true := rfl
  have hpoint : isNumeralChar '.' = true := rfl
  rw [positionalText] at h
  split at h
  · simp only [List.cons_append, List.mem_cons, List.mem_append, List.mem_replicate] at h
    rcases h with rfl | rfl | ⟨-, rfl⟩ | h
    · exact hzero
    · exact hpoint
    · exact hzero
    · exact hdigits c h
  · dsimp only at h
    split at h
    · simp only [List.mem_append, List.mem_replicate] at h
      rcases h with (h | ⟨-, rfl⟩) | h
      · exact hdigits c h
      · exact hzero
      · split at h
        · simp only [List.mem_cons, List.not_mem_nil, or_false] at h
          rcases h with rfl | rfl
          · exact hpoint
          · exact hzero
        · exact absurd h List.not_mem_nil
    · rw [List.mem_append, List.mem_cons] at h
      rcases h with h | rfl | h
      · exact hdigits c (List.mem_of_mem_take h)
      · exact hpoint
      · exact hdigits c (List.mem_of_mem_drop h)

variable {l}

/-- A layout that never shows an exponent writes every magnitude with digits and points. -/
lemma isNumeral_magnitudeText (hl : ∀ first, l.positional first = true) (m : Magnitude) :
    l.magnitudeText m ≠ [] ∧ ∀ c ∈ l.magnitudeText m, isNumeralChar c = true := by
  rw [magnitudeText]
  split
  · cases l.wholeWithZero <;> exact ⟨by simp, List.all_eq_true.1 rfl⟩
  · simp only [hl, if_true]
    exact ⟨positionalText_ne_nil l _ _, fun c hc =>
      isNumeralChar_of_mem_positionalText l (fun d hd => isNumeralChar_of_mem_digits hd) _ hc⟩

/-- A layout that never shows an exponent writes every double as a numeral. -/
theorem isNumeral_text (hl : ∀ first, l.positional first = true) (x : Float) :
    IsNumeral (l.text x) := by
  rw [text]
  split
  · exact ⟨by decide, List.all_eq_true.1 (by decide)⟩
  · split
    · exact ⟨by decide, List.all_eq_true.1 (by decide)⟩
    · exact ⟨by decide, List.all_eq_true.1 (by decide)⟩
  next negative m _ =>
    obtain ⟨hne, hchars⟩ := isNumeral_magnitudeText hl m
    refine ⟨by simp [hne], fun c hc => ?_⟩
    rw [String.toList_ofList, List.mem_append] at hc
    rcases hc with hc | hc
    · cases negative with
      | true =>
        obtain rfl := List.mem_singleton.1 hc
        rfl
      | false => exact absurd hc List.not_mem_nil
    · exact hchars c hc

end Layout
end SearchGateway.Decimal
