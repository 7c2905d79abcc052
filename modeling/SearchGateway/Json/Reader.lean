import SearchGateway.Decimal.Numeral
import SearchGateway.Json.Basic

/-!
# Reading JSON text

The value that a JSON text stands for.  A number without point and exponent that sixty-four
bits hold, with or without a sign, is a whole number, and every other number a double; this
includes the negative zero.  Of several fields of an object with one key the last counts.

Every step down reads at least one character within two steps, so that twice as many steps as
there are characters are enough.
-/
namespace SearchGateway.Json

/-- The text after its white space. -/
def skipSpace (cs : List Char) : List Char :=
  cs.dropWhile fun c => c == ' ' || c == '\n' || c == '\r' || c == '\t'

/-- The value of a hexadecimal digit. -/
def hexDigit? (c : Char) : Option Nat :=
  if '0' ≤ c ∧ c ≤ '9' then some (c.toNat - '0'.toNat)
  else if 'a' ≤ c ∧ c ≤ 'f' then some (c.toNat - 'a'.toNat + 10)
  else if 'A' ≤ c ∧ c ≤ 'F' then some (c.toNat - 'A'.toNat + 10)
  else none

/-- Reads four hexadecimal digits. -/
def takeUnit? : List Char → Option (Nat × List Char)
  | a :: b :: c :: d :: rest => do
    return (((← hexDigit? a) * 16 + (← hexDigit? b)) * 256 + (← hexDigit? c) * 16 + (← hexDigit? d),
      rest)
  | _ => none

/-- The character that stands after a backslash for another one. -/
def unescaped? : Char → Option Char
  | '"' => some '"'
  | '\\' => some '\\'
  | '/' => some '/'
  | 'b' => some '\x08'
  | 'f' => some '\x0c'
  | 'n' => some '\n'
  | 'r' => some '\r'
  | 't' => some '\t'
  | _ => none

/-- Reads the character of a numbered escape, which is two units long beyond the basic
plane. -/
def takeCoded? (cs : List Char) : Option (Char × List Char) := do
  let (high, rest) ← takeUnit? cs
  if 0xD800 ≤ high ∧ high < 0xDC00 then
    match rest with
    | '\\' :: 'u' :: rest =>
      let (low, rest) ← takeUnit? rest
      guard (0xDC00 ≤ low ∧ low < 0xE000)
      return (Char.ofNat (0x10000 + (high - 0xD800) * 0x400 + (low - 0xDC00)), rest)
    | _ => none
  else
    guard (¬ (0xDC00 ≤ high ∧ high < 0xE000))
    return (Char.ofNat high, rest)

/-- Reads a string after its first quotation mark, in at most `steps` steps. -/
def takeString? (steps : Nat) (read : List Char) (cs : List Char) :
    Option (String × List Char) :=
  match steps, cs with
  | _, '"' :: rest => some (String.ofList read.reverse, rest)
  | steps + 1, '\\' :: 'u' :: rest =>
    match takeCoded? rest with
    | some (c, rest) => takeString? steps (c :: read) rest
    | none => none
  | steps + 1, '\\' :: c :: rest =>
    match unescaped? c with
    | some c => takeString? steps (c :: read) rest
    | none => none
  | steps + 1, c :: rest => takeString? steps (c :: read) rest
  | _, _ => none

/-- Reads a number. -/
def takeNumber? (cs : List Char) : Option (Json × List Char) :=
  let (numeral, rest) := Decimal.Numeral.take cs
  let size := Decimal.valueOfDigits numeral.whole
  if !numeral.hasDigits then none
  else if numeral.isWhole ∧ ¬ numeral.negative ∧ size < Nat.pow 2 64 then some (.int size, rest)
  else if numeral.isWhole ∧ numeral.negative ∧ size ≤ Nat.pow 2 63 ∧ size ≠ 0 then
    some (.int (-size), rest)
  else some (.float numeral.toFloat, rest)

mutual

/-- Reads a value in at most `steps` steps. -/
def takeValue? (steps : Nat) (cs : List Char) : Option (Json × List Char) :=
  match steps with
  | 0 => none
  | steps + 1 =>
    match skipSpace cs with
    | '\x7b' :: rest => takeFields? steps .empty (skipSpace rest)
    | '[' :: rest => takeItems? steps [] (skipSpace rest)
    | '"' :: rest => (takeString? steps [] rest).map fun (text, rest) => (.str text, rest)
    | 't' :: 'r' :: 'u' :: 'e' :: rest => some (.bool true, rest)
    | 'f' :: 'a' :: 'l' :: 's' :: 'e' :: rest => some (.bool false, rest)
    | 'n' :: 'u' :: 'l' :: 'l' :: rest => some (.null, rest)
    | cs => takeNumber? cs

/-- Reads the items of an array after the ones that have been read, latest first. -/
def takeItems? (steps : Nat) (read : List Json) (cs : List Char) : Option (Json × List Char) :=
  match steps, cs with
  | _, ']' :: rest => some (.arr read.reverse, rest)
  | 0, _ => none
  | steps + 1, cs => do
    let (item, rest) ← takeValue? steps cs
    match skipSpace rest with
    | ',' :: rest => takeItems? steps (item :: read) (skipSpace rest)
    | ']' :: rest => return (.arr (item :: read).reverse, rest)
    | _ => none

/-- Reads the fields of an object after the ones that have been read. -/
def takeFields? (steps : Nat) (read : JsonObject) (cs : List Char) : Option (Json × List Char) :=
  match steps, cs with
  | _, '\x7d' :: rest => some (.obj read, rest)
  | steps + 1, '"' :: rest => do
    let (key, rest) ← takeString? steps [] rest
    match skipSpace rest with
    | ':' :: rest =>
      let (value, rest) ← takeValue? steps rest
      let read := read.insert key value
      match skipSpace rest with
      | ',' :: rest => takeFields? steps read (skipSpace rest)
      | '\x7d' :: rest => return (.obj read, rest)
      | _ => none
    | _ => none
  | _, _ => none

end

/-- The value of a JSON text. -/
def read? (text : String) : Option Json := do
  let cs := text.toList
  let (value, rest) ← takeValue? (2 * cs.length + 2) cs
  guard (skipSpace rest = [])
  return value

end SearchGateway.Json
