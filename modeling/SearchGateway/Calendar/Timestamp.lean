import SearchGateway.Calendar.Instant
import SearchGateway.Decimal.Numeral

/-!
# Timestamps

The texts of instants: a date of four, two and two digits, a time of day and an offset
from universal time, as in `2024-03-09T07:05:01Z`.  Reading accepts a small letter or
a space between date and time, any number of fraction digits, of which nine count, and
offsets written with a true minus sign.  Writing always uses universal time and whole
seconds; a year outside of four digits shows its sign.
-/
namespace SearchGateway.Calendar.Timestamp

/-- Reads a number of exactly `count` decimal digits. -/
def takeNumber? (count : Nat) (cs : List Char) : Option (Nat × List Char) :=
  let digits := cs.take count
  if digits.length = count ∧ digits.all Char.isDigit then
    some (Decimal.valueOfDigits digits, cs.drop count)
  else none

/-- Skips one character that passes a test. -/
def skip? (p : Char → Bool) : List Char → Option (List Char)
  | c :: rest => if p c then some rest else none
  | [] => none

/-- Reads the fraction of a second in nanoseconds, if there is one; digits after the ninth
do not count. -/
def takeFraction? : List Char → Option (Nat × List Char)
  | '.' :: rest =>
    let digits := rest.takeWhile Char.isDigit
    if digits.isEmpty then none
    else
      let counted := digits.take 9
      some (Decimal.valueOfDigits counted * Nat.pow 10 (9 - counted.length),
        rest.dropWhile Char.isDigit)
  | cs => some (0, cs)

/-- Reads hours and minutes up to the end of a text. -/
def clock? (cs : List Char) : Option (Nat × Nat) := do
  let (hours, cs) ← takeNumber? 2 cs
  let cs ← skip? (· == ':') cs
  let (minutes, cs) ← takeNumber? 2 cs
  guard (hours < 24 ∧ minutes < 60 ∧ cs = [])
  return (hours, minutes)

/-- Reads an offset from universal time, in minutes, up to the end of the text. -/
def offset? : List Char → Option Int
  | ['Z'] => some 0
  | ['z'] => some 0
  | sign :: rest => do
    let negative ←
      if sign = '+' then some false
      else if sign = '-' ∨ sign = '\u2212' then some true
      else none
    let (hours, minutes) ← clock? rest
    let size : Int := hours * 60 + minutes
    return if negative then -size else size
  | [] => none

/-- Reads a timestamp. -/
def parseChars? (cs : List Char) : Option Instant := do
  let (year, cs) ← takeNumber? 4 cs
  let cs ← skip? (· == '-') cs
  let (month, cs) ← takeNumber? 2 cs
  let cs ← skip? (· == '-') cs
  let (day, cs) ← takeNumber? 2 cs
  let cs ← skip? (fun c => c == 'T' || c == 't' || c == ' ') cs
  let (hour, cs) ← takeNumber? 2 cs
  let cs ← skip? (· == ':') cs
  let (minute, cs) ← takeNumber? 2 cs
  let cs ← skip? (· == ':') cs
  let (second, cs) ← takeNumber? 2 cs
  let (nano, cs) ← takeFraction? cs
  let offset ← offset? cs
  let date ← Date.ofParts? year month day
  if h : hour < 24 ∧ minute < 60 ∧ second ≤ 60 ∧ nano < 1_000_000_000 then
    return Instant.ofLocal
      ⟨date, hour, minute, second, nano, h.1, h.2.1, h.2.2.1, h.2.2.2⟩ offset
  else none

/-- Reads a timestamp. -/
def parse? (text : String) : Option Instant := parseChars? text.toList

/-- A number with at least `width` digits. -/
def padded (width n : Nat) : List Char :=
  let digits := Nat.toDigits 10 n
  List.replicate (width - digits.length) '0' ++ digits

/-- A year, with its sign when it does not have four digits. -/
def yearChars (year : Int) : List Char :=
  if 0 ≤ year ∧ year ≤ 9999 then padded 4 year.natAbs
  else (if year < 0 then '-' else '+') :: padded 4 year.natAbs

/-- The timestamp of an instant in universal time, without the fraction of its second. -/
def formatChars (t : Instant) : List Char :=
  yearChars t.date.year ++ '-' :: padded 2 t.date.month ++ '-' :: padded 2 t.date.day ++
    'T' :: padded 2 t.hour ++ ':' :: padded 2 t.minute ++ ':' :: padded 2 t.second ++ ['Z']

/-- The timestamp of an instant in universal time, without the fraction of its second. -/
def format (t : Instant) : String := String.ofList (formatChars t)

end SearchGateway.Calendar.Timestamp
