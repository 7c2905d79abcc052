import Mathlib.Tactic.Lemma
import SearchGateway.FieldName

/-!
# Cutting flat names

The delimiter overlaps with itself, so a flat name may be cut elsewhere than where it was
joined: `a_` and `b` are joined to `a___b`, which is cut into `a` and `_b`.  The pieces of a
path are *separable* when this cannot happen: no piece has the delimiter inside, and no piece
but the last ends with an underscore.  The main results are

* `parts_joined`: a separable path is found again after it was joined;
* `separable_parts`: what a name is cut into is always separable;
* `joined_parts`: a name is found again after it was cut.

A piece may begin with an underscore, may be empty, and may end with an underscore where it
is the last one.
-/
namespace SearchGateway.FieldName

/-- The delimiter occurs in a name. -/
def HasDelimiter (name : String) : Prop := ['_', '_'] <:+: name.toList

/-- A name ends with an underscore. -/
def EndsWithUnderscore (name : String) : Prop := name.toList.getLast? = some '_'

instance (name : String) : Decidable (HasDelimiter name) :=
  inferInstanceAs (Decidable (_ <:+: _))

instance (name : String) : Decidable (EndsWithUnderscore name) :=
  inferInstanceAs (Decidable (_ = _))

/-- The pieces of a path that can be joined and cut again. -/
def Separable : List String → Prop
  | [] => True
  | [last] => ¬ HasDelimiter last
  | first :: next :: rest =>
    ¬ HasDelimiter first ∧ ¬ EndsWithUnderscore first ∧ Separable (next :: rest)

/-! ## The characters of a name -/

lemma pieces_ne_nil (cs : List Char) : pieces cs ≠ [] := by
  fun_induction pieces cs <;> simp_all

lemma parts_ne_nil (name : String) : parts name ≠ [] := by
  simp [parts, pieces_ne_nil]

/-- Away from a delimiter, cutting goes on with the same piece. -/
lemma pieces_cons {c : Char} {cs : List Char} (h : ¬ (c = '_' ∧ cs.head? = some '_')) :
    pieces (c :: cs) = (pieces cs).modifyHead (c :: ·) := by
  have hne : pieces cs ≠ [] := pieces_ne_nil cs
  rw [pieces]
  · split <;> simp_all
  · rintro rest rfl rfl
    exact h ⟨rfl, rfl⟩

lemma not_delimiter_of_cons {c : Char} {cs : List Char} (h : ¬ ['_', '_'] <:+: c :: cs) :
    ¬ (c = '_' ∧ cs.head? = some '_') ∧ ¬ ['_', '_'] <:+: cs := by
  constructor
  · rintro ⟨rfl, hhead⟩
    obtain ⟨rest, rfl⟩ : ∃ rest, cs = '_' :: rest := by
      cases cs with
      | nil => simp at hhead
      | cons d rest => exact ⟨rest, by simpa using hhead⟩
    exact h ⟨[], rest, rfl⟩
  · intro hin
    exact h (List.infix_cons hin)

/-- A text without the delimiter is a single piece. -/
lemma pieces_eq_singleton {cs : List Char} (h : ¬ ['_', '_'] <:+: cs) : pieces cs = [cs] := by
  induction cs with
  | nil => rfl
  | cons c cs ih =>
    obtain ⟨hhead, hrest⟩ := not_delimiter_of_cons h
    rw [pieces_cons hhead, ih hrest]
    rfl

/-- A delimiter ends the text in front of it, if that does not end with an underscore. -/
lemma pieces_append_delimiter {cs : List Char} (h : ¬ ['_', '_'] <:+: cs)
    (hlast : cs.getLast? ≠ some '_') (rest : List Char) :
    pieces (cs ++ '_' :: '_' :: rest) = cs :: pieces rest := by
  induction cs with
  | nil => rfl
  | cons c cs ih =>
    obtain ⟨hhead, hrest⟩ := not_delimiter_of_cons h
    -- the last character is the reason why `c` is not the first half of a delimiter
    have hhead' : ¬ (c = '_' ∧ (cs ++ '_' :: '_' :: rest).head? = some '_') := by
      cases cs with
      | nil => simpa using hlast
      | cons d cs => simpa using hhead
    have hlast' : cs.getLast? ≠ some '_' := by
      cases cs with
      | nil => simp
      | cons d cs => simpa [List.getLast?_cons_cons] using hlast
    rw [List.cons_append, pieces_cons hhead', ih hrest hlast']
    rfl

/-- The first piece begins where the text begins; it is empty only in front of a delimiter
and at the end of the text. -/
lemma head?_of_pieces {cs first : List Char} {others : List (List Char)}
    (h : pieces cs = first :: others) :
    cs.head? = if first = [] ∧ others ≠ [] then some '_' else first.head? := by
  rcases cs with _ | ⟨c, cs⟩
  · simp only [pieces, List.cons.injEq] at h
    obtain ⟨rfl, rfl⟩ := h
    rfl
  · by_cases hhead : c = '_' ∧ cs.head? = some '_'
    · obtain ⟨rfl, hcs⟩ := hhead
      cases cs with
      | nil => simp at hcs
      | cons d rest =>
        obtain rfl : d = '_' := by simpa using hcs
        simp only [pieces, List.cons.injEq] at h
        obtain ⟨rfl, rfl⟩ := h
        simp [pieces_ne_nil]
    · obtain ⟨first', others', h'⟩ := List.exists_cons_of_ne_nil (pieces_ne_nil cs)
      rw [pieces_cons hhead, h', List.modifyHead_cons, List.cons.injEq] at h
      obtain ⟨rfl, rfl⟩ := h
      simp

/-! ## Paths -/

/-- An underscore in front of the first piece makes no delimiter with it. -/
lemma not_delimiter_cons_piece {c : Char} {cs first : List Char} {others : List (List Char)}
    (hhead : ¬ (c = '_' ∧ cs.head? = some '_')) (hpieces : pieces cs = first :: others)
    (hfirst : ¬ ['_', '_'] <:+: first) : ¬ ['_', '_'] <:+: c :: first := by
  intro hin
  rcases List.infix_cons_iff.1 hin with ⟨tail, htail⟩ | hin
  · obtain ⟨rfl, rfl⟩ : c = '_' ∧ first = '_' :: tail := by
      simp only [List.cons_append, List.nil_append, List.cons.injEq] at htail
      exact ⟨htail.1.symm, htail.2.symm⟩
    exact hhead ⟨rfl, by simpa using head?_of_pieces hpieces⟩
  · exact hfirst hin

/-- Putting a character in front of the first piece leaves the pieces separable. -/
lemma separable_cons_piece {c : Char} {cs first : List Char} {others : List (List Char)}
    (hhead : ¬ (c = '_' ∧ cs.head? = some '_')) (hpieces : pieces cs = first :: others)
    (h : Separable ((first :: others).map String.ofList)) :
    Separable (((c :: first) :: others).map String.ofList) := by
  have hdelim := not_delimiter_cons_piece hhead hpieces
  cases others with
  | nil =>
    simp only [List.map_cons, List.map_nil, Separable, HasDelimiter, String.toList_ofList] at h ⊢
    exact hdelim h
  | cons next others =>
    obtain ⟨hfirst, hlast, hnext⟩ := h
    simp only [HasDelimiter, EndsWithUnderscore, String.toList_ofList] at hfirst hlast
    refine ⟨by simpa [HasDelimiter] using hdelim hfirst, ?_, hnext⟩
    simp only [EndsWithUnderscore, String.toList_ofList]
    cases first with
    | nil =>
      -- the next piece follows at once, so the text goes on with its delimiter
      have hcs : cs.head? = some '_' := by simpa using head?_of_pieces hpieces
      simpa using fun hc => hhead ⟨hc, hcs⟩
    | cons d first => simpa [List.getLast?_cons_cons] using hlast

lemma separable_pieces (cs : List Char) : Separable ((pieces cs).map String.ofList) := by
  fun_induction pieces cs with
  | case1 => simp [Separable, HasDelimiter]
  | case2 rest ih =>
    obtain ⟨first, others, h⟩ := List.exists_cons_of_ne_nil (pieces_ne_nil rest)
    rw [h] at ih ⊢
    exact ⟨by simp [HasDelimiter], by simp [EndsWithUnderscore], ih⟩
  | case3 c rest hhead h => exact absurd h (pieces_ne_nil rest)
  | case4 c rest hhead first others h ih =>
    -- `hhead` says that `c` and the text after it do not begin with the delimiter
    rw [h] at ih
    refine separable_cons_piece (fun hc => ?_) h ih
    obtain ⟨tail, rfl⟩ := List.head?_eq_some_iff.1 hc.2
    exact hhead tail hc.1 rfl

/-- What a name is cut into can be joined and cut again. -/
theorem separable_parts (name : String) : Separable (parts name) := separable_pieces name.toList

lemma toList_joined_cons_cons (first next : String) (rest : List String) :
    (joined (first :: next :: rest)).toList =
      first.toList ++ '_' :: '_' :: (joined (next :: rest)).toList := by
  simp [joined, delimiter, String.toList_intercalate]

/-- A separable path is found again after it was joined. -/
theorem parts_joined {path : List String} (hne : path ≠ []) (h : Separable path) :
    parts (joined path) = path := by
  induction path with
  | nil => exact absurd rfl hne
  | cons first rest ih =>
    cases rest with
    | nil =>
      have hfirst : joined [first] = first := by simp [joined]
      rw [hfirst, parts, pieces_eq_singleton h]
      simp
    | cons next rest =>
      obtain ⟨hfirst, hlast, hrest⟩ := h
      have hnext := ih (List.cons_ne_nil _ _) hrest
      rw [parts] at hnext ⊢
      rw [toList_joined_cons_cons, pieces_append_delimiter hfirst hlast, List.map_cons, hnext,
        String.ofList_toList]

/-- Joining what a text is cut into gives the text back. -/
lemma intercalate_pieces (cs : List Char) : ['_', '_'].intercalate (pieces cs) = cs := by
  fun_induction pieces cs with
  | case1 => rfl
  | case2 rest ih =>
    obtain ⟨first, others, h⟩ := List.exists_cons_of_ne_nil (pieces_ne_nil rest)
    rw [h] at ih ⊢
    rw [List.intercalate_cons_cons, ih]
    rfl
  | case3 c rest hhead h => exact absurd h (pieces_ne_nil rest)
  | case4 c rest hhead first others h ih =>
    rw [h] at ih
    cases others with
    | nil => simpa using ih
    | cons next others =>
      rw [List.intercalate_cons_cons] at ih ⊢
      exact congrArg (c :: ·) ih

/-- A name is found again after it was cut, so that no two names have the same parts. -/
lemma joined_parts (name : String) : joined (parts name) = name := by
  have hchars : (joined (parts name)).toList = name.toList := by
    rw [joined, String.toList_intercalate, parts, List.map_map]
    simpa [Function.comp_def, delimiter] using intercalate_pieces name.toList
  exact String.toList_inj.1 hchars

lemma parts_injective : Function.Injective parts := by
  intro name name' h
  rw [← joined_parts name, h, joined_parts name']

/-- Different separable paths have different flat names. -/
lemma joined_injective {path path' : List String} (hne : path ≠ []) (hne' : path' ≠ [])
    (h : Separable path) (h' : Separable path') (heq : joined path = joined path') :
    path = path' := by
  rw [← parts_joined hne h, heq, parts_joined hne' h']

/-- The flat name of a field inside an object continues the flat name of the object. -/
lemma joined_below (parent : Option String) (name : String) (path : List String) :
    joined (below parent name :: path) = joined (parent.toList ++ name :: path) := by
  cases parent with
  | none => rfl
  | some parent => rfl

end SearchGateway.FieldName
