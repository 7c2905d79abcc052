import SearchGateway.Decimal.Shortest

/-!
# Decimal texts of doubles

A layout says how the digits of a decimal are written: where a positional text ends and
a scientific one begins, whether a whole number shows a zero after the point, and how a
tie between two shortest decimals is settled.  The uses of a layout are the number
texts of compact JSON and the terms of a query.
-/
namespace SearchGateway.Decimal

/-- How doubles are written. -/
structure Layout where
  /-- How a tie between two shortest decimals is settled. -/
  tie : Tie
  /-- Whether a number is written without an exponent, given the power of ten of its first
  digit. -/
  positional : Int → Bool
  /-- A whole number in positional form ends in `.0`. -/
  wholeWithZero : Bool

/-- The digits of a decimal without the zeros at the end, and the power of ten of the first
of them. -/
def Scaled.digits (d : Scaled) : List Char × Int :=
  let all := Nat.toDigits 10 d.coefficient
  ((all.reverse.dropWhile (· == '0')).reverse, d.exponent + all.length - 1)

namespace Layout

/-- Digits written with a point at its place, `first` being the power of ten of the first
digit. -/
def positionalText (l : Layout) (digits : List Char) (first : Int) : List Char :=
  if first < 0 then
    '0' :: '.' :: List.replicate (-first - 1).toNat '0' ++ digits
  else
    let whole := first.toNat + 1
    if digits.length ≤ whole then
      digits ++ List.replicate (whole - digits.length) '0' ++
        (if l.wholeWithZero then ['.', '0'] else [])
    else digits.take whole ++ '.' :: digits.drop whole

/-- Digits written with one of them before the point and an exponent that shows its sign. -/
def scientificText (digits : List Char) (first : Int) : List Char :=
  let sign := if first < 0 then '-' else '+'
  let exponent := 'e' :: sign :: Nat.toDigits 10 first.natAbs
  match digits with
  | [] => '0' :: exponent
  | [digit] => digit :: exponent
  | digit :: others => digit :: '.' :: others ++ exponent

/-- The text of a magnitude. -/
def magnitudeText (l : Layout) (m : Magnitude) : List Char :=
  if m.mantissa = 0 then (if l.wholeWithZero then ['0', '.', '0'] else ['0'])
  else
    let (digits, first) := (m.shortest l.tie).digits
    if l.positional first then l.positionalText digits first
    else scientificText digits first

/-- The text of a double. -/
def text (l : Layout) (x : Float) : String :=
  match Binary64.ofFloat x with
  | .nan => "NaN"
  | .infinite negative => if negative then "-inf" else "inf"
  | .finite negative m =>
    String.ofList ((if negative then ['-'] else []) ++ l.magnitudeText m)

/-! ### No double has an empty text -/

theorem positionalText_ne_nil (l : Layout) (digits : List Char) (first : Int) :
    l.positionalText digits first ≠ [] := by
  rw [positionalText]
  split
  · simp
  · dsimp only
    split
    · intro h
      have hlength := congrArg List.length h
      simp only [List.length_append, List.length_replicate, List.length_nil] at hlength
      omega
    · simp

theorem scientificText_ne_nil (digits : List Char) (first : Int) :
    scientificText digits first ≠ [] := by
  unfold scientificText
  match digits with
  | [] => exact List.cons_ne_nil _ _
  | [_] => exact List.cons_ne_nil _ _
  | _ :: _ :: _ => exact List.cons_ne_nil _ _

theorem magnitudeText_ne_nil (l : Layout) (m : Magnitude) : l.magnitudeText m ≠ [] := by
  rw [magnitudeText]
  split
  · split <;> exact List.cons_ne_nil _ _
  · dsimp only
    split
    · exact positionalText_ne_nil l _ _
    · exact scientificText_ne_nil _ _

theorem text_ne_empty (l : Layout) (x : Float) : l.text x ≠ "" := by
  rw [text]
  split
  · decide
  · split <;> decide
  · simp [magnitudeText_ne_nil]

end Layout
end SearchGateway.Decimal
