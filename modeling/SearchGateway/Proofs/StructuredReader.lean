import Mathlib.Tactic.Lemma
import SearchGateway.CloudSearch.Structured
import SearchGateway.Proofs.Numerals

/-!
# Reading the structured query language

A reader for the texts of the structured language.  After an opening parenthesis a word says
what kind of expression follows.  A field stands after `field=` and ends at the first space.
An operand between apostrophes ends at the first apostrophe that has no backslash in front of
it, and a bare operand is a number and ends where its characters end.  A range shows by its
brackets which of its bounds may be reached, and either bound may be missing.

An expression is *readable* when the names of its fields have no space and its bare operands
are numerals.  The main result is `read?_render`: a readable expression is read from its
written form, so that no two readable expressions have the same written form.
-/
namespace SearchGateway.CloudSearch

/-! ## Parts of expressions -/

/-- Cuts a text at the first `stop`, which is left out. -/
def cutAt? (stop : Char) : List Char → Option (String × List Char)
  | [] => none
  | c :: rest =>
    if c = stop then some ("", rest)
    else (cutAt? stop rest).map fun (word, rest) => (String.ofList (c :: word.toList), rest)

/-- The text after its first character, which must be `c`. -/
def expect? (c : Char) : List Char → Option (List Char)
  | [] => none
  | d :: rest => if d = c then some rest else none

/-- Reads what stands between apostrophes, after the first of them. -/
def takeQuoted? : List Char → Option (List Char × List Char)
  | [] => none
  | '\x27' :: rest => some ([], rest)
  | '\\' :: c :: rest => (takeQuoted? rest).map fun (text, rest) => (c :: text, rest)
  | c :: rest => (takeQuoted? rest).map fun (text, rest) => (c :: text, rest)

/-- Reads an operand. -/
def takeOperand? : List Char → Option (Operand × List Char)
  | '\x27' :: rest =>
    (takeQuoted? rest).map fun (text, rest) => (.quoted (String.ofList text), rest)
  | cs =>
    let numeral := cs.takeWhile Decimal.isNumeralChar
    if numeral.isEmpty then none
    else some (.bare (String.ofList numeral), cs.dropWhile Decimal.isNumeralChar)

/-- Reads a field, if there is one. -/
def takeField? : List Char → Option (Option String × List Char)
  | 'f' :: 'i' :: 'e' :: 'l' :: 'd' :: '=' :: rest =>
    (cutAt? ' ' rest).map fun (field, rest) => (some field, rest)
  | cs => some (none, cs)

/-- Reads a field, if there is one, an operand and the closing parenthesis. -/
def takeComparison? (form : Option String → Operand → Structured) (cs : List Char) :
    Option (Structured × List Char) := do
  let (field, rest) ← takeField? cs
  let (operand, rest) ← takeOperand? rest
  let rest ← expect? ')' rest
  return (form field operand, rest)

/-- Reads a bracket: whether it is the one that includes the bound. -/
def takeBracket? (including excluding : Char) : List Char → Option (Bool × List Char)
  | [] => none
  | c :: rest =>
    if c = including then some (true, rest)
    else if c = excluding then some (false, rest)
    else none

/-- Reads the bound of a range up to `stop`, if there is one. -/
def takeBound? (isStop : Char → Bool) (cs : List Char) : Option (Option Operand × List Char) :=
  if cs.head?.any isStop then some (none, cs)
  else (takeOperand? cs).map fun (operand, rest) => (some operand, rest)

/-- Whether a bracket closes a range. -/
def isClosing (c : Char) : Bool := c == ']' || c == '\x7d'

/-- Reads a range after its word, with the closing parenthesis. -/
def takeRange? (cs : List Char) : Option (Structured × List Char) := do
  let (field, rest) ← takeField? cs
  let field ← field
  let (lowIncluded, rest) ← takeBracket? '[' '\x7b' rest
  let (low, rest) ← takeBound? (· == ',') rest
  let rest ← expect? ',' rest
  let (high, rest) ← takeBound? isClosing rest
  let (highIncluded, rest) ← takeBracket? ']' '\x7d' rest
  let rest ← expect? ')' rest
  return (.range field ⟨lowIncluded, low⟩ ⟨highIncluded, high⟩, rest)

/-- Reads an expression without parts after its word. -/
def takeLeaf? (word : String) (cs : List Char) : Option (Structured × List Char) :=
  match word with
  | "term" => takeComparison? .term cs
  | "phrase" => takeComparison? .phrase cs
  | "prefix" => takeComparison? .start cs
  | "range" => takeRange? cs
  | _ => none

/-- A text without the space in front. -/
def skipSpace : List Char → List Char
  | ' ' :: rest => rest
  | cs => cs

/-! ## Expressions -/

mutual

/-- Reads an expression in at most `steps` steps. -/
def takeExpression? (steps : Nat) (cs : List Char) : Option (Structured × List Char) :=
  match steps with
  | 0 => none
  | steps + 1 => do
    let (word, rest) ← (expect? '(' cs).bind (cutAt? ' ')
    match word with
    | "and" => (takeExpressions? steps rest).map fun (parts, rest) => (.all parts, rest)
    | "or" => (takeExpressions? steps rest).map fun (parts, rest) => (.any parts, rest)
    | "not" =>
      if rest.head? = some '(' then do
        let (inner, rest) ← takeExpression? steps rest
        let rest ← expect? ')' rest
        return (.not inner, rest)
      else do
        let (word, rest) ← cutAt? ' ' rest
        if word = "term" then takeComparison? .notTerm rest else none
    | word => takeLeaf? word rest

/-- Reads expressions, with spaces between them, up to the closing parenthesis. -/
def takeExpressions? (steps : Nat) (cs : List Char) : Option (List Structured × List Char) :=
  match steps with
  | 0 => none
  | steps + 1 =>
    if cs.head? = some ')' then some ([], cs.tail)
    else do
      let (part, rest) ← takeExpression? steps cs
      let (parts, rest) ← takeExpressions? steps (skipSpace rest)
      return (part :: parts, rest)

end

/-- Reads an expression; nothing may follow it. -/
def Structured.read? (text : String) : Option Structured := do
  let (e, rest) ← takeExpression? text.toList.length text.toList
  if rest.isEmpty then some e else none

/-! ## Readable expressions -/

/-- A bare operand must be a numeral. -/
def Operand.Readable : Operand → Prop
  | .bare term => Decimal.IsNumeral term
  | .quoted _ => True

/-- The bound of a range must be readable. -/
def RangeSide.Readable (side : RangeSide) : Prop :=
  ∀ operand, side.bound = some operand → operand.Readable

/-- The name of a field must not have a space. -/
def ReadableField (field : Option String) : Prop := ∀ name, field = some name → ' ' ∉ name.toList

namespace Structured

mutual

/-- Fields have no space and bare operands are numerals. -/
def Readable : Structured → Prop
  | .term field operand => ReadableField field ∧ operand.Readable
  | .notTerm field operand => ReadableField field ∧ operand.Readable
  | .phrase field operand => ReadableField field ∧ operand.Readable
  | .start field operand => ReadableField field ∧ operand.Readable
  | .range field low high => ReadableField (some field) ∧ low.Readable ∧ high.Readable
  | .not inner => inner.Readable
  | .all parts => ReadableAll parts
  | .any parts => ReadableAll parts

/-- All of some expressions are readable. -/
def ReadableAll : List Structured → Prop
  | [] => True
  | part :: rest => part.Readable ∧ ReadableAll rest

end

mutual

/-- The number of steps in which an expression is read. -/
def readSteps : Structured → Nat
  | .not inner => inner.readSteps + 1
  | .all parts => readStepsAll parts + 1
  | .any parts => readStepsAll parts + 1
  | _ => 1

/-- The number of steps in which some expressions are read. -/
def readStepsAll : List Structured → Nat
  | [] => 1
  | part :: rest => part.readSteps + readStepsAll rest + 1

end

end Structured

/-! ## Reading parts back -/

lemma cutAt?_append {stop : Char} {word : String} (h : stop ∉ word.toList) (rest : List Char) :
    cutAt? stop (word.toList ++ stop :: rest) = some (word, rest) := by
  suffices hlist : ∀ cs : List Char, stop ∉ cs →
      cutAt? stop (cs ++ stop :: rest) = some (String.ofList cs, rest) by
    simpa using hlist word.toList h
  intro cs hcs
  induction cs with
  | nil => simp [cutAt?]
  | cons c cs ih =>
    rw [List.mem_cons, not_or] at hcs
    simp [cutAt?, Ne.symm hcs.1, ih hcs.2]

@[simp] lemma expect?_cons_self (c : Char) (rest : List Char) : expect? c (c :: rest) = some rest :=
  if_pos rfl

/-- What is written between apostrophes ends at its own apostrophe. -/
lemma takeQuoted?_escaped (term rest : List Char) :
    takeQuoted? (term.flatMap escapedOperandChar ++ '\x27' :: rest) = some (term, rest) := by
  induction term with
  | nil => rfl
  | cons c term ih =>
    rw [List.flatMap_cons, escapedOperandChar, List.append_assoc]
    by_cases hc : c = '\x27' ∨ c = '\\'
    · rw [if_pos hc, List.cons_append, List.singleton_append, takeQuoted?, ih, Option.map_some]
    · rw [not_or] at hc
      rw [if_neg (by simpa using hc), List.singleton_append, takeQuoted?, ih, Option.map_some]
      · exact hc.1
      · rintro - - rfl
        exact absurd rfl hc.2

lemma takeOperand?_render {operand : Operand} (h : operand.Readable) {stop : Char}
    (hstop : Decimal.isNumeralChar stop = false) (rest : List Char) :
    takeOperand? (operand.render.toList ++ stop :: rest) = some (operand, stop :: rest) := by
  cases operand with
  | quoted term =>
    have hrender : (Operand.quoted term).render.toList ++ stop :: rest =
        '\x27' :: (term.toList.flatMap escapedOperandChar ++ '\x27' :: stop :: rest) := by
      simp [Operand.render]
    rw [hrender, takeOperand?, takeQuoted?_escaped]
    simp
  | bare term =>
    obtain ⟨hne, hchars⟩ := h
    have htake : (term.toList ++ stop :: rest).takeWhile Decimal.isNumeralChar = term.toList := by
      rw [List.takeWhile_append_of_pos hchars, List.takeWhile_cons_of_neg (by simp [hstop]),
        List.append_nil]
    have hdrop : (term.toList ++ stop :: rest).dropWhile Decimal.isNumeralChar = stop :: rest := by
      rw [List.dropWhile_append_of_pos hchars, List.dropWhile_cons_of_neg (by simp [hstop])]
    rw [Operand.render, takeOperand?]
    · simp [htake, hdrop, hne]
    · -- a numeral does not begin with an apostrophe
      intro tail htail
      obtain ⟨c, cs, hcs⟩ := List.exists_cons_of_ne_nil hne
      rw [hcs, List.cons_append, List.cons.injEq] at htail
      have hc := hchars c (hcs ▸ List.mem_cons_self)
      rw [htail.1] at hc
      exact absurd hc (by decide)

/-- No operand looks like the beginning of a field. -/
lemma takeField?_operand {operand : Operand} (h : operand.Readable) (rest : List Char) :
    takeField? (operand.render.toList ++ ')' :: rest) =
      some (none, operand.render.toList ++ ')' :: rest) := by
  rw [takeField?]
  intro tail htail
  cases operand with
  | quoted term => simp [Operand.render] at htail
  | bare term =>
    -- the letter `e` does not occur in a numeral
    have he : 'e' ∉ term.toList := fun hmem => absurd (h.isNumeralChar 'e' hmem) (by decide)
    rw [Operand.render] at htail
    rcases hterm : term.toList with _ | ⟨a, _ | ⟨b, _ | ⟨c, cs⟩⟩⟩ <;> rw [hterm] at htail he <;>
      simp_all

lemma takeField?_some {field : String} (h : ReadableField (some field)) (rest : List Char) :
    takeField? ((Structured.fieldPart (some field)).toList ++ rest) =
      some (some field, rest) := by
  have hpart : (Structured.fieldPart (some field)).toList ++ rest =
      'f' :: 'i' :: 'e' :: 'l' :: 'd' :: '=' :: (field.toList ++ ' ' :: rest) := by
    simp [Structured.fieldPart]
  rw [hpart, takeField?, cutAt?_append (h field rfl), Option.map_some]

lemma takeComparison?_render (form : Option String → Operand → Structured)
    {field : Option String} (hfield : ReadableField field) {operand : Operand}
    (hoperand : operand.Readable) (rest : List Char) :
    takeComparison? form
        ((Structured.fieldPart field).toList ++ (operand.render.toList ++ ')' :: rest)) =
      some (form field operand, rest) := by
  have hfirst : takeField?
      ((Structured.fieldPart field).toList ++ (operand.render.toList ++ ')' :: rest)) =
        some (field, operand.render.toList ++ ')' :: rest) := by
    cases field with
    | none => exact takeField?_operand hoperand rest
    | some name => exact takeField?_some hfield _
  have hclosing : Decimal.isNumeralChar ')' = false := rfl
  simp [takeComparison?, hfirst, takeOperand?_render hoperand hclosing]

/-- A missing bound ends at once, and a bound does not begin with what ends it. -/
lemma takeBound?_render {side : RangeSide} (h : side.Readable) {isStop : Char → Bool}
    {stop : Char} (hstop : isStop stop = true) (hquote : isStop '\x27' = false)
    (hnumeral : ∀ c, isStop c = true → Decimal.isNumeralChar c = false) (rest : List Char) :
    takeBound? isStop (side.render.toList ++ stop :: rest) = some (side.bound, stop :: rest) := by
  rcases side with ⟨included, _ | operand⟩
  · simp [RangeSide.render, takeBound?, hstop]
  · have hread := takeOperand?_render (h operand rfl) (hnumeral stop hstop) rest
    have hhead : (operand.render.toList ++ stop :: rest).head?.any isStop = false := by
      cases operand with
      | quoted term => simp [Operand.render, hquote]
      | bare term =>
        obtain ⟨hne, hchars⟩ := h _ rfl
        obtain ⟨c, cs, hcs⟩ := List.exists_cons_of_ne_nil hne
        have hc : isStop c = false := by
          cases hc : isStop c with
          | false => rfl
          | true =>
            have hnot := hnumeral c hc
            rw [hchars c (hcs ▸ List.mem_cons_self)] at hnot
            exact absurd hnot (by decide)
        simp [Operand.render, hcs, hc]
    show takeBound? isStop (operand.render.toList ++ stop :: rest) = _
    rw [takeBound?, hhead, hread]
    rfl

lemma takeBracket?_cons {including excluding : Char} (hne : including ≠ excluding)
    (included : Bool) (rest : List Char) :
    takeBracket? including excluding ((if included then including else excluding) :: rest) =
      some (included, rest) := by
  cases included with
  | true => simp [takeBracket?]
  | false => simp [takeBracket?, Ne.symm hne]

lemma takeRange?_render {field : String} (hfield : ReadableField (some field))
    {low high : RangeSide} (hlow : low.Readable) (hhigh : high.Readable) (rest : List Char) :
    takeRange? ((Structured.fieldPart (some field)).toList ++
        ((if low.included then '[' else '\x7b') :: (low.render.toList ++
          ',' :: (high.render.toList ++
            (if high.included then ']' else '\x7d') :: ')' :: rest)))) =
      some (.range field low high, rest) := by
  have hlowBound : ∀ tail, takeBound? (· == ',') (low.render.toList ++ ',' :: tail) =
      some (low.bound, ',' :: tail) := by
    refine takeBound?_render hlow rfl rfl fun c hc => ?_
    obtain rfl : c = ',' := by simpa using hc
    rfl
  have hclosing : ∀ c, isClosing c = true → Decimal.isNumeralChar c = false := by
    intro c hc
    rcases (by simpa [isClosing] using hc : c = ']' ∨ c = '\x7d') with rfl | rfl
    · rfl
    · rfl
  have hhighBound : ∀ tail, takeBound? isClosing (high.render.toList ++
      (if high.included then ']' else '\x7d') :: tail) =
        some (high.bound, (if high.included then ']' else '\x7d') :: tail) := by
    intro tail
    cases high.included with
    | true => exact takeBound?_render hhigh rfl rfl hclosing tail
    | false => exact takeBound?_render hhigh rfl rfl hclosing tail
  simp [takeRange?, takeField?_some hfield, takeBracket?_cons, hlowBound, hhighBound]

/-! ## The written form of expressions -/

namespace Structured

/-- A word and what belongs to it, between parentheses. -/
def written (word body : String) : String := "(" ++ word ++ " " ++ body ++ ")"

lemma toList_written_append (word body : String) (rest : List Char) :
    (written word body).toList ++ rest =
      '(' :: (word.toList ++ ' ' :: (body.toList ++ ')' :: rest)) := by
  simp [written]

lemma render_term (field : Option String) (operand : Operand) :
    (term field operand).render = written "term" (fieldPart field ++ operand.render) := rfl

lemma render_notTerm (field : Option String) (operand : Operand) :
    (notTerm field operand).render =
      written "not" ("term " ++ (fieldPart field ++ operand.render)) := rfl

lemma render_phrase (field : Option String) (operand : Operand) :
    (phrase field operand).render = written "phrase" (fieldPart field ++ operand.render) := rfl

lemma render_start (field : Option String) (operand : Operand) :
    (start field operand).render = written "prefix" (fieldPart field ++ operand.render) := rfl

/-- What is written of a range after its word. -/
def rangeBody (field : String) (low high : RangeSide) : String :=
  fieldPart (some field) ++ (if low.included then "[" else "\x7b") ++ low.render ++ "," ++
    high.render ++ (if high.included then "]" else "\x7d")

lemma render_range (field : String) (low high : RangeSide) :
    (range field low high).render = written "range" (rangeBody field low high) := rfl

lemma render_not (inner : Structured) :
    (Structured.not inner).render = written "not" inner.render := rfl

/-- The written form of some expressions, with spaces between them. -/
def partsBody (parts : List Structured) : String := " ".intercalate (renderAll parts)

lemma render_all (parts : List Structured) : (all parts).render = written "and" (partsBody parts) :=
  rfl

lemma render_any (parts : List Structured) : (any parts).render = written "or" (partsBody parts) :=
  rfl

/-- Every expression is written as a word with its body. -/
lemma exists_render_eq_written (e : Structured) : ∃ word body, e.render = written word body := by
  cases e with
  | term field operand => exact ⟨_, _, render_term field operand⟩
  | notTerm field operand => exact ⟨_, _, render_notTerm field operand⟩
  | phrase field operand => exact ⟨_, _, render_phrase field operand⟩
  | start field operand => exact ⟨_, _, render_start field operand⟩
  | range field low high => exact ⟨_, _, render_range field low high⟩
  | not inner => exact ⟨_, _, render_not inner⟩
  | all parts => exact ⟨_, _, render_all parts⟩
  | any parts => exact ⟨_, _, render_any parts⟩

lemma head?_render_append (e : Structured) (rest : List Char) :
    (e.render.toList ++ rest).head? = some '(' := by
  obtain ⟨word, body, h⟩ := exists_render_eq_written e
  rw [h, toList_written_append, List.head?_cons]

lemma toList_rangeBody_append (field : String) (low high : RangeSide) (rest : List Char) :
    (rangeBody field low high).toList ++ rest = (fieldPart (some field)).toList ++
      ((if low.included then '[' else '\x7b') :: (low.render.toList ++
        ',' :: (high.render.toList ++ (if high.included then ']' else '\x7d') :: rest))) := by
  cases hlow : low.included <;> cases hhigh : high.included <;> simp [rangeBody, hlow, hhigh]

/-- What follows a part: the closing parenthesis, or a space and the other parts. -/
def afterPart (parts : List Structured) (rest : List Char) : List Char :=
  if parts = [] then ')' :: rest else ' ' :: ((partsBody parts).toList ++ ')' :: rest)

lemma toList_partsBody_cons_append (part : Structured) (parts : List Structured)
    (rest : List Char) :
    (partsBody (part :: parts)).toList ++ ')' :: rest =
      part.render.toList ++ afterPart parts rest := by
  cases parts with
  | nil => simp [partsBody, afterPart, renderAll]
  | cons next parts => simp [partsBody, afterPart, renderAll, String.toList_intercalate]

lemma skipSpace_afterPart (parts : List Structured) (rest : List Char) :
    skipSpace (afterPart parts rest) = (partsBody parts).toList ++ ')' :: rest := by
  cases parts with
  | nil => rfl
  | cons part parts => rfl

/-! ## Reading expressions back -/

/-- The word of an expression ends at the first space. -/
lemma takeWord {word : String} (h : ' ' ∉ word.toList) (body : String) (rest : List Char) :
    (expect? '(' ((written word body).toList ++ rest)).bind (cutAt? ' ') =
      some (word, body.toList ++ ')' :: rest) := by
  rw [toList_written_append, expect?_cons_self, Option.bind_some, cutAt?_append h]

mutual

/-- A readable expression is read from its written form, whatever follows. -/
theorem takeExpression?_render (e : Structured) (h : e.Readable) {steps : Nat}
    (hsteps : e.readSteps ≤ steps) (rest : List Char) :
    takeExpression? steps (e.render.toList ++ rest) = some (e, rest) := by
  obtain ⟨steps, rfl⟩ : ∃ n, steps = n + 1 := by
    cases steps with
    | zero => cases e <;> simp [readSteps] at hsteps
    | succ n => exact ⟨n, rfl⟩
  match e with
  | .term field operand =>
    rw [render_term, takeExpression?, takeWord (by decide), String.toList_append,
      List.append_assoc]
    exact takeComparison?_render .term h.1 h.2 rest
  | .phrase field operand =>
    rw [render_phrase, takeExpression?, takeWord (by decide), String.toList_append,
      List.append_assoc]
    exact takeComparison?_render .phrase h.1 h.2 rest
  | .start field operand =>
    rw [render_start, takeExpression?, takeWord (by decide), String.toList_append,
      List.append_assoc]
    exact takeComparison?_render .start h.1 h.2 rest
  | .range field low high =>
    rw [render_range, takeExpression?, takeWord (by decide), toList_rangeBody_append]
    exact takeRange?_render h.1 h.2.1 h.2.2 rest
  | .notTerm field operand =>
    -- after `not` a letter comes instead of a parenthesis
    have hread := takeComparison?_render .notTerm h.1 h.2 rest
    have hword : ("term " ++ (fieldPart field ++ operand.render)).toList ++ ')' :: rest =
        "term".toList ++ ' ' ::
          ((fieldPart field).toList ++ (operand.render.toList ++ ')' :: rest)) := by
      simp
    rw [render_notTerm, takeExpression?, takeWord (by decide), hword]
    simp only [Option.bind_eq_bind, Option.bind_some]
    rw [if_neg (by simp), cutAt?_append (by decide)]
    exact hread
  | .not inner =>
    rw [readSteps] at hsteps
    have hread := takeExpression?_render inner h (by omega : inner.readSteps ≤ steps) (')' :: rest)
    rw [render_not, takeExpression?, takeWord (by decide)]
    show (if List.head? _ = some '(' then _ else _) = _
    rw [if_pos (head?_render_append inner _), hread]
    rfl
  | .all parts =>
    rw [readSteps] at hsteps
    have hread := takeExpressions?_render parts h (by omega : readStepsAll parts ≤ steps) rest
    rw [render_all, takeExpression?, takeWord (by decide)]
    simp [hread]
  | .any parts =>
    rw [readSteps] at hsteps
    have hread := takeExpressions?_render parts h (by omega : readStepsAll parts ≤ steps) rest
    rw [render_any, takeExpression?, takeWord (by decide)]
    simp [hread]

/-- Readable expressions are read up to the closing parenthesis. -/
theorem takeExpressions?_render (parts : List Structured) (h : ReadableAll parts) {steps : Nat}
    (hsteps : readStepsAll parts ≤ steps) (rest : List Char) :
    takeExpressions? steps ((partsBody parts).toList ++ ')' :: rest) = some (parts, rest) := by
  obtain ⟨steps, rfl⟩ : ∃ n, steps = n + 1 := by
    cases steps with
    | zero => cases parts <;> simp [readStepsAll] at hsteps
    | succ n => exact ⟨n, rfl⟩
  match parts with
  | [] => simp [takeExpressions?, partsBody, renderAll]
  | part :: parts =>
    rw [readStepsAll] at hsteps
    have hpart := takeExpression?_render part h.1 (by omega : part.readSteps ≤ steps)
      (afterPart parts rest)
    have hparts := takeExpressions?_render parts h.2 (by omega : readStepsAll parts ≤ steps) rest
    have hhead : (part.render.toList ++ afterPart parts rest).head? ≠ some ')' := by
      rw [head?_render_append]
      decide
    rw [toList_partsBody_cons_append, takeExpressions?, if_neg hhead]
    simp [hpart, skipSpace_afterPart, hparts]

end

/-! ## Whole texts -/

lemma length_toList_written (word body : String) :
    (written word body).toList.length = word.toList.length + body.toList.length + 3 := by
  simp [written]
  omega

mutual

theorem readSteps_le_length (e : Structured) : e.readSteps ≤ e.render.toList.length := by
  match e with
  | .not inner =>
    have hinner := readSteps_le_length inner
    rw [readSteps, render_not, length_toList_written]
    omega
  | .all parts =>
    have hparts := readStepsAll_le_length parts
    rw [readSteps, render_all, length_toList_written]
    omega
  | .any parts =>
    have hparts := readStepsAll_le_length parts
    rw [readSteps, render_any, length_toList_written]
    omega
  | .term _ _ | .notTerm _ _ | .phrase _ _ | .start _ _ | .range _ _ _ =>
    obtain ⟨word, body, h⟩ := exists_render_eq_written _
    rw [h, length_toList_written, readSteps]
    · omega
    all_goals simp

theorem readStepsAll_le_length (parts : List Structured) :
    readStepsAll parts ≤ (partsBody parts).toList.length + 2 := by
  match parts with
  | [] => simp [readStepsAll]
  | part :: parts =>
    have hpart := readSteps_le_length part
    have hparts := readStepsAll_le_length parts
    have hlength := congrArg List.length (toList_partsBody_cons_append part parts [])
    rw [List.length_append, List.length_append, List.length_singleton] at hlength
    rw [readStepsAll]
    rcases parts with _ | ⟨next, parts⟩
    · simp [readStepsAll, afterPart] at hlength ⊢
      omega
    · simp [afterPart] at hlength
      omega

end

/-- A readable expression is read from its written form. -/
theorem read?_render {e : Structured} (h : e.Readable) : read? e.render = some e := by
  have htake := takeExpression?_render e h (readSteps_le_length e) []
  rw [List.append_nil] at htake
  simp [read?, htake]

end Structured
end SearchGateway.CloudSearch
