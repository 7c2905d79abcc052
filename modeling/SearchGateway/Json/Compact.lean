import SearchGateway.Json.Basic
import SearchGateway.Decimal.Layout
import SearchGateway.Decimal.Numeral

/-!
# Compact JSON text

The text of a JSON value without white space, and its size in bytes, which is what the
payload limits of the engines count.  In a string only the quotation mark, the backslash
and the control characters below the space are escaped.  A double has a positional text
when its first digit stands between the fifth place after the point and the sixteenth
before it, and then always shows a point; other doubles have a scientific text.
-/
namespace SearchGateway.Json

/-- How doubles are written in JSON text. -/
def numberLayout : Decimal.Layout where
  tie := .toEven
  positional first := -5 ≤ first && first ≤ 15
  wholeWithZero := true

/-- The text of a number; a double that is not finite has none and is written as null. -/
def floatText (x : Float) : String :=
  match Decimal.Binary64.ofFloat x with
  | .finite _ _ => numberLayout.text x
  | _ => "null"

/-- The two lower-case hexadecimal digits of a number below 256. -/
def twoHexDigits (n : Nat) : List Char := [Nat.digitChar (n / 16), Nat.digitChar (n % 16)]

/-- A character inside a JSON string. -/
def escaped (c : Char) : List Char :=
  match c with
  | '"' => ['\\', '"']
  | '\\' => ['\\', '\\']
  | '\n' => ['\\', 'n']
  | '\r' => ['\\', 'r']
  | '\t' => ['\\', 't']
  | '\x08' => ['\\', 'b']
  | '\x0c' => ['\\', 'f']
  | c => if c.toNat < 0x20 then '\\' :: 'u' :: '0' :: '0' :: twoHexDigits c.toNat else [c]

/-- A JSON string with its quotation marks. -/
def quoted (s : String) : String :=
  String.ofList ('"' :: s.toList.flatMap escaped ++ ['"'])

mutual

/-- The compact text of a value. -/
def compact : Json → String
  | .null => "null"
  | .bool value => if value then "true" else "false"
  | .int value => Decimal.wholeText value
  | .float value => floatText value
  | .str text => quoted text
  | .arr items => "[" ++ ",".intercalate (compactItems items) ++ "]"
  | .obj ⟨fields⟩ => "\x7b" ++ ",".intercalate (compactFields fields) ++ "\x7d"

/-- The compact texts of the items of an array. -/
def compactItems : List Json → List String
  | [] => []
  | item :: rest => item.compact :: compactItems rest

/-- The compact texts of the fields of an object, each with its key. -/
def compactFields : List (String × Json) → List String
  | [] => []
  | (key, value) :: rest => (quoted key ++ ":" ++ value.compact) :: compactFields rest

end

/-- The size of the compact text of a value in bytes. -/
def encodedSize (j : Json) : Nat := j.compact.utf8ByteSize

theorem floatText_ne_empty (x : Float) : floatText x ≠ "" := by
  rw [floatText]
  split
  · exact Decimal.Layout.text_ne_empty _ x
  · decide

theorem compact_ne_empty (j : Json) : j.compact ≠ "" := by
  cases j with
  | null => simp [compact]
  | bool value => cases value <;> simp [compact]
  | int value =>
    rw [compact, Decimal.wholeText]
    split
    · simp
    · simp [Decimal.natText, Nat.toDigits_ne_nil]
  | float value =>
    rw [compact]
    exact floatText_ne_empty value
  | str text => simp [compact, quoted]
  | arr items => simp [compact]
  | obj fields => simp [compact]

theorem encodedSize_pos (j : Json) : 0 < j.encodedSize :=
  Nat.pos_of_ne_zero fun h => compact_ne_empty j (String.utf8ByteSize_eq_zero_iff.1 h)

end SearchGateway.Json
