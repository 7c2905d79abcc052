/-!
# Decimal numbers

A whole number is written with its decimal digits and, when it is negative, a minus sign in
front.  What is read may have more parts: a decimal number has a sign, digits before and after a
point, and an exponent; everything but the digits may be missing.  The double that it stands for
is the one nearest to it.
-/
namespace SearchGateway.Decimal

/-- The decimal text of a natural number. -/
def natText (n : Nat) : String := String.ofList (Nat.toDigits 10 n)

/-- The decimal text of a whole number. -/
def wholeText (n : Int) : String :=
  if n < 0 then String.ofList ('-' :: Nat.toDigits 10 n.natAbs) else natText n.natAbs

/-- The number that some decimal digits stand for. -/
def valueOfDigits (digits : List Char) : Nat :=
  digits.foldl (fun n c => 10 * n + (c.toNat - '0'.toNat)) 0

/-- The parts of a decimal number. -/
structure Numeral where
  negative : Bool
  whole : List Char
  /-- The digits after the point, if there is a point. -/
  fraction : Option (List Char)
  /-- The power of ten, if there is one. -/
  exponent : Option Int
deriving DecidableEq, Repr

namespace Numeral

/-- Reads a sign, if there is one. -/
def takeSign : List Char → Bool × List Char
  | '-' :: rest => (true, rest)
  | '+' :: rest => (false, rest)
  | cs => (false, cs)

/-- Reads a power of ten, if there is one: a letter, perhaps a sign, and at least one digit. -/
def takeExponent (cs : List Char) : Option Int × List Char :=
  match cs with
  | [] => (none, [])
  | e :: rest =>
    let (negative, rest) := takeSign rest
    let digits := rest.takeWhile Char.isDigit
    if (e = 'e' ∨ e = 'E') ∧ digits ≠ [] then
      let size : Int := valueOfDigits digits
      (some (if negative then -size else size), rest.dropWhile Char.isDigit)
    else (none, cs)

/-- Reads a decimal number; what follows it is left. -/
def take (cs : List Char) : Numeral × List Char :=
  let (negative, cs) := takeSign cs
  let (whole, cs) := (cs.takeWhile Char.isDigit, cs.dropWhile Char.isDigit)
  let (fraction, cs) := match cs with
    | '.' :: rest => (some (rest.takeWhile Char.isDigit), rest.dropWhile Char.isDigit)
    | cs => (none, cs)
  let (exponent, cs) := takeExponent cs
  (⟨negative, whole, fraction, exponent⟩, cs)

/-- Whether there are only digits and perhaps a sign. -/
def isWhole (n : Numeral) : Bool := n.fraction.isNone && n.exponent.isNone

/-- Whether there is any digit at all. -/
def hasDigits (n : Numeral) : Bool := !n.whole.isEmpty || !(n.fraction.getD []).isEmpty

/-- The double nearest to a decimal number.  Numbers from `10 ^ 309` on are infinite, and
numbers below `10 ^ -330` are zero. -/
def toFloat (n : Numeral) : Float :=
  let fraction := n.fraction.getD []
  let digits := (n.whole ++ fraction).dropWhile (· == '0')
  let exponent := n.exponent.getD 0 - fraction.length
  let size :=
    if digits.isEmpty ∨ digits.length + exponent < -329 then 0.0
    else if 309 < digits.length + exponent then 1.0 / 0.0
    else Float.ofScientific (valueOfDigits digits) (exponent < 0) exponent.natAbs
  if n.negative then -size else size

end Numeral

/-- Reads a double: a decimal number or a word for infinity or for no number, with a sign. -/
def readDouble? (text : String) : Option Float :=
  let (negative, cs) := Numeral.takeSign text.toList
  let signed (size : Float) : Float := if negative then -size else size
  match String.ofList (cs.map Char.toLower) with
  | "nan" => some (0.0 / 0.0)
  | "inf" => some (signed (1.0 / 0.0))
  | "infinity" => some (signed (1.0 / 0.0))
  | _ =>
    let (numeral, rest) := Numeral.take cs
    if numeral.hasDigits ∧ rest = [] ∧ Numeral.takeSign cs = (false, cs) then
      some (signed numeral.toFloat)
    else none

end SearchGateway.Decimal
