import Mathlib.Tactic.Lemma
import SearchGateway.CloudSearch.Simple

/-!
# Phrases of the simple language

A reader for phrases.  After the opening quotation mark a backslash takes the character behind
it as it is, and the first quotation mark that is not taken so ends the phrase.

A phrase is written with a backslash in front of each quotation mark of its term, but the
backslashes of the term are written as they are.  So the reader finds the end of the phrase
exactly when every backslash of the term takes along a character that is not a quotation mark
(`exists_takePhrase?_iff`), and it reads the term itself exactly when the term has no backslash
at all (`takePhrase?_eq_iff`).  A term that ends in a backslash leaves its phrase open, and one
in which a backslash stands in front of a quotation mark ends its phrase early.  Still no two
terms share a phrase (`phraseChars_injective`).
-/
namespace SearchGateway.CloudSearch

/-- Reads a phrase after its opening quotation mark: the term, and what follows the phrase. -/
def takePhrase? : List Char → Option (List Char × List Char)
  | [] => none
  | '"' :: rest => some ([], rest)
  | '\\' :: c :: rest => (takePhrase? rest).map fun (term, rest) => (c :: term, rest)
  | c :: rest => (takePhrase? rest).map fun (term, rest) => (c :: term, rest)

/-- Reads a phrase: the term, and what follows the phrase. -/
def readPhrase? (text : String) : Option (String × String) :=
  match text.toList with
  | '"' :: rest =>
    (takePhrase? rest).map fun (term, rest) => (String.ofList term, String.ofList rest)
  | _ => none

/-- A term as it stands between the quotation marks of its phrase. -/
def phraseChars (term : List Char) : List Char :=
  term.flatMap fun c => if c = '"' then ['\\', '"'] else [c]

/-- Read from the left, every backslash takes along the character behind it, and this is not a
quotation mark. -/
def BackslashesPaired : List Char → Prop
  | [] => True
  | ['\\'] => False
  | '\\' :: c :: rest => c ≠ '"' ∧ BackslashesPaired rest
  | _ :: rest => BackslashesPaired rest

lemma simplePhrase_eq (term : String) :
    simplePhrase term = "\"" ++ String.ofList (phraseChars term.toList) ++ "\"" := rfl

@[simp] lemma phraseChars_nil : phraseChars [] = [] := rfl

lemma phraseChars_quote (rest : List Char) :
    phraseChars ('"' :: rest) = '\\' :: '"' :: phraseChars rest := rfl

lemma phraseChars_cons {c : Char} (h : c ≠ '"') (rest : List Char) :
    phraseChars (c :: rest) = c :: phraseChars rest := by
  simp [phraseChars, h]

lemma takePhrase?_pair (c : Char) (rest : List Char) :
    takePhrase? ('\\' :: c :: rest) =
      (takePhrase? rest).map fun (term, rest) => (c :: term, rest) := by
  rw [takePhrase?]

lemma takePhrase?_cons {c : Char} (hquote : c ≠ '"') (hbackslash : c ≠ '\\') (rest : List Char) :
    takePhrase? (c :: rest) =
      (takePhrase? rest).map fun (term, rest) => (c :: term, rest) := by
  rw [takePhrase?]
  · exact hquote
  · intro d others hc
    exact absurd hc hbackslash

/-- A character that is not a backslash is read as it was written, quotation marks too. -/
lemma takePhrase?_phraseChars_cons {c : Char} (h : c ≠ '\\') (term rest : List Char) :
    takePhrase? (phraseChars (c :: term) ++ rest) =
      (takePhrase? (phraseChars term ++ rest)).map fun (term, rest) => (c :: term, rest) := by
  by_cases hc : c = '"'
  · subst hc
    rw [phraseChars_quote, List.cons_append, List.cons_append, takePhrase?_pair]
  · rw [phraseChars_cons hc, List.cons_append, takePhrase?_cons hc h]

/-- Of a backslash and the character that it takes along only the latter is read. -/
lemma takePhrase?_phraseChars_pair {c : Char} (h : c ≠ '"') (term rest : List Char) :
    takePhrase? (phraseChars ('\\' :: c :: term) ++ rest) =
      (takePhrase? (phraseChars term ++ rest)).map fun (term, rest) => (c :: term, rest) := by
  rw [phraseChars_cons (by decide), phraseChars_cons h, List.cons_append, List.cons_append,
    takePhrase?_pair]

lemma readPhrase?_simplePhrase_eq_iff {term read : String} :
    readPhrase? (simplePhrase term) = some (read, "") ↔
      takePhrase? (phraseChars term.toList ++ ['"']) = some (read.toList, []) := by
  have htoList : (simplePhrase term).toList = '"' :: (phraseChars term.toList ++ ['"']) := by
    simp [simplePhrase_eq]
  rw [readPhrase?, htoList]
  show Option.map _ (takePhrase? _) = _ ↔ _
  rcases takePhrase? (phraseChars term.toList ++ ['"']) with _ | ⟨others, rest⟩
  · simp
  · simp [← String.toList_inj]

/-! ## Different terms have different phrases -/

/-- What stands between the quotation marks of a phrase, without the backslash in front of each
quotation mark. -/
def withoutEscapes : List Char → List Char
  | [] => []
  | '\\' :: '"' :: rest => '"' :: withoutEscapes rest
  | c :: rest => c :: withoutEscapes rest

lemma phraseChars_ne_quote_cons (term rest : List Char) : phraseChars term ≠ '"' :: rest := by
  intro h
  cases term with
  | nil => simp at h
  | cons c term =>
    by_cases hc : c = '"'
    · subst hc
      simp [phraseChars_quote] at h
    · rw [phraseChars_cons hc] at h
      exact hc (List.cons.inj h).1

lemma withoutEscapes_phraseChars (term : List Char) : withoutEscapes (phraseChars term) = term := by
  induction term with
  | nil => rfl
  | cons c term ih =>
    by_cases hc : c = '"'
    · subst hc
      rw [phraseChars_quote, withoutEscapes, ih]
    · rw [phraseChars_cons hc, withoutEscapes, ih]
      -- no quotation mark is written without a backslash of its own in front of it
      intro rest _ hrest
      exact phraseChars_ne_quote_cons term rest hrest

theorem simplePhrase_injective {a b : String} (h : simplePhrase a = simplePhrase b) : a = b := by
  have hchars : phraseChars a.toList = phraseChars b.toList := by
    simpa [simplePhrase_eq, ← String.toList_inj] using h
  rw [← String.toList_inj, ← withoutEscapes_phraseChars a.toList, hchars,
    withoutEscapes_phraseChars]

/-! ## Where the reader ends -/

section

variable {c : Char} {found : Option (List Char × List Char)} {rest : List Char}

lemma exists_map_cons_iff :
    (∃ read, found.map (fun (term, rest) => (c :: term, rest)) = some (read, rest)) ↔
      ∃ read, found = some (read, rest) := by
  rcases found with _ | ⟨read, others⟩ <;> simp

lemma exists_of_map_cons_eq {read : List Char}
    (h : found.map (fun (term, rest) => (c :: term, rest)) = some (read, rest)) :
    ∃ others, found = some (others, rest) ∧ read = c :: others := by
  rcases found with _ | ⟨others, rest'⟩
  · exact nomatch h
  · obtain ⟨rfl, rfl⟩ := Prod.mk.inj (Option.some.inj h)
    exact ⟨others, rfl, rfl⟩

end

/-- A backslash that takes nothing along leaves the phrase open: it takes the closing quotation
mark. -/
lemma takePhrase?_phraseChars_last : takePhrase? (phraseChars ['\\'] ++ ['"']) = none := by
  simp [phraseChars, takePhrase?]

/-- A backslash in front of a quotation mark takes the backslash that was written for it, and the
quotation mark ends the phrase. -/
lemma takePhrase?_phraseChars_early (term : List Char) :
    takePhrase? (phraseChars ('\\' :: '"' :: term) ++ ['"']) =
      some (['\\'], phraseChars term ++ ['"']) := by
  rw [phraseChars_cons (by decide), phraseChars_quote]
  simp [takePhrase?]

lemma ne_backslash {c : Char} {rest : List Char} (hlast : c = '\\' → rest = [] → False)
    (hpair : ∀ d others, c = '\\' → rest = d :: others → False) : c ≠ '\\' := by
  intro hc
  cases rest with
  | nil => exact hlast hc rfl
  | cons d others => exact hpair d others hc rfl

/-- The reader finds the end of a phrase exactly when no backslash of the term is left to take
along a quotation mark. -/
theorem exists_takePhrase?_iff (term : List Char) :
    (∃ read, takePhrase? (phraseChars term ++ ['"']) = some (read, [])) ↔
      BackslashesPaired term := by
  fun_induction BackslashesPaired term with
  | case1 => simp [takePhrase?]
  | case2 => simp [takePhrase?_phraseChars_last]
  | case3 c rest ih =>
    by_cases hc : c = '"'
    · subst hc
      simp [takePhrase?_phraseChars_early]
    · rw [takePhrase?_phraseChars_pair hc, exists_map_cons_iff, ih]
      exact (and_iff_right hc).symm
  | case4 c rest hlast hpair ih =>
    rw [takePhrase?_phraseChars_cons (ne_backslash hlast hpair), exists_map_cons_iff, ih]

/-- A term without backslashes is read, whatever follows its phrase. -/
lemma takePhrase?_of_not_mem {term : List Char} (h : '\\' ∉ term) (rest : List Char) :
    takePhrase? (phraseChars term ++ '"' :: rest) = some (term, rest) := by
  induction term with
  | nil => rw [phraseChars_nil, List.nil_append, takePhrase?]
  | cons c term ih =>
    rw [List.mem_cons, not_or] at h
    rw [takePhrase?_phraseChars_cons (Ne.symm h.1), ih h.2]
    rfl

/-- What is read up to the end of a phrase is not longer than the term, and it is shorter if the
term has a backslash. -/
lemma length_of_takePhrase?_eq {term read : List Char}
    (h : takePhrase? (phraseChars term ++ ['"']) = some (read, [])) :
    read.length ≤ term.length ∧ ('\\' ∈ term → read.length < term.length) := by
  fun_induction BackslashesPaired term generalizing read with
  | case1 =>
    have hread : read = [] := by simpa [takePhrase?] using h
    simp [hread]
  | case2 => exact nomatch takePhrase?_phraseChars_last.symm.trans h
  | case3 c rest ih =>
    by_cases hc : c = '"'
    · subst hc
      simp [takePhrase?_phraseChars_early] at h
    · -- two characters of the term give one
      rw [takePhrase?_phraseChars_pair hc] at h
      obtain ⟨others, hothers, rfl⟩ := exists_of_map_cons_eq h
      have hle := (ih hothers).1
      simp only [List.length_cons]
      omega
  | case4 c rest hlast hpair ih =>
    have hc : c ≠ '\\' := ne_backslash hlast hpair
    rw [takePhrase?_phraseChars_cons hc] at h
    obtain ⟨others, hothers, rfl⟩ := exists_of_map_cons_eq h
    obtain ⟨hle, hlt⟩ := ih hothers
    simp only [List.length_cons, List.mem_cons, Ne.symm hc, false_or]
    exact ⟨Nat.succ_le_succ hle, fun hmem => Nat.succ_lt_succ (hlt hmem)⟩

/-- A term is read back from its phrase exactly when it has no backslash. -/
theorem takePhrase?_eq_iff (term : List Char) :
    takePhrase? (phraseChars term ++ ['"']) = some (term, []) ↔ '\\' ∉ term := by
  refine ⟨fun h hmem => ?_, fun h => takePhrase?_of_not_mem h []⟩
  exact Nat.lt_irrefl _ ((length_of_takePhrase?_eq h).2 hmem)

/-! ## The main statement -/

/-- **Where phrases are delimited.**  Looking for a term anywhere gives a phrase: an opening
quotation mark, a body and a closing quotation mark.  The reader finds the end of the phrase at
its end exactly when the backslashes of the term are paired with characters other than quotation
marks, and it reads the term itself exactly when the term has no backslash.  Different terms
have different phrases in any case. -/
theorem phrase_delimited_iff {value : FieldValue} {term : String} (h : value.term? = some term) :
    ∃ phrase body : String,
      simpleText (.compare .contains .wildcard value) = .ok phrase ∧
      phrase = "\"" ++ body ++ "\"" ∧
      ((∃ read, readPhrase? phrase = some (read, "")) ↔ BackslashesPaired term.toList) ∧
      (readPhrase? phrase = some (term, "") ↔ '\\' ∉ term.toList) ∧
      ∀ (value' : FieldValue) (term' : String), value'.term? = some term' →
        simpleText (.compare .contains .wildcard value') = .ok phrase → term' = term := by
  have hphrase {value : FieldValue} {term : String} (h : value.term? = some term) :
      simpleText (.compare .contains .wildcard value) = .ok (simplePhrase term) := by
    simp [simpleText, simpleComparison, Attribute.isWildcard, h, simpleForm]
  refine ⟨simplePhrase term, String.ofList (phraseChars term.toList), hphrase h, rfl, ?_, ?_, ?_⟩
  · rw [← exists_takePhrase?_iff]
    constructor
    · rintro ⟨read, hread⟩
      exact ⟨read.toList, readPhrase?_simplePhrase_eq_iff.1 hread⟩
    · rintro ⟨read, hread⟩
      refine ⟨String.ofList read, readPhrase?_simplePhrase_eq_iff.2 ?_⟩
      rw [hread, String.toList_ofList]
  · rw [readPhrase?_simplePhrase_eq_iff, takePhrase?_eq_iff]
  · intro value' term' h' hsame
    exact simplePhrase_injective (Except.ok.inj ((hphrase h').symm.trans hsame))

/-- Where the backslash takes along a letter the phrase ends at its end, but the term is not read
back: its backslash is lost. -/
theorem phrase_delimited_of_pair :
    let term := "C:\\dir \"new\""
    (FieldValue.text term).term? = some term ∧
      ∃ phrase body : String,
        simpleText (.compare .contains .wildcard (.text term)) = .ok phrase ∧
        phrase = "\"" ++ body ++ "\"" ∧ (∃ read, readPhrase? phrase = some (read, "")) ∧
        readPhrase? phrase ≠ some (term, "") := by
  intro term
  have hterm : (FieldValue.text term).term? = some term := rfl
  obtain ⟨phrase, body, htext, hquoted, hend, hread, -⟩ := phrase_delimited_iff hterm
  have hpaired : BackslashesPaired term.toList := by simp [term, BackslashesPaired]
  have hbackslash : '\\' ∈ term.toList := by decide
  exact ⟨hterm, phrase, body, htext, hquoted, hend.2 hpaired, fun h => hread.1 h hbackslash⟩

/-- The phrase of a single backslash has no end, and that of a backslash with a quotation mark
behind it ends after the backslash. -/
theorem phrase_not_delimited :
    (simpleText (.compare .contains .wildcard (.text "\\")) = .ok "\"\\\"" ∧
      readPhrase? "\"\\\"" = none) ∧
    (simpleText (.compare .contains .wildcard (.text "\\\"")) = .ok "\"\\\\\"\"" ∧
      readPhrase? "\"\\\\\"\"" = some ("\\", "\"")) := by
  refine ⟨⟨congrArg Except.ok (by decide), by decide⟩, congrArg Except.ok (by decide), by decide⟩

end SearchGateway.CloudSearch
