import Mathlib.Data.List.Nodup
import Mathlib.Tactic.Lemma
import SearchGateway.CloudSearch.Request
import SearchGateway.Elasticsearch.Body
import SearchGateway.Proofs.Maps
import SearchGateway.Proofs.Numerals
import SearchGateway.Proofs.Unambiguous
import SearchGateway.Query.Builder

/-!
# Assembling requests from clauses

A query whose clauses are of different kinds is compiled clause by clause, and no clause gets in
the way of another one: the keys that a clause gives to a body of Elasticsearch belong to its
kind (`bodyParts`), so that the fragments are merged without any of them meeting another, and in
a request to CloudSearch every kind has a parameter of its own (`Request.text?`).

So it is enough to know the clauses that were there.  The body has the entries of the fragments
and no others (`body_eq_ok_iff`), and a request is determined by the texts of its clauses
(`request_eq_ok_iff`).  The order of the clauses does not occur in either statement.
-/
namespace SearchGateway

variable {clause : Clause} {clauses clauses' : List Clause} {schema : Schema}

namespace Elasticsearch

variable {keepAlive : String} {fields own : JsonObject} {key : String} {j : Json}

/-! ## Bodies of Elasticsearch -/

/-- The keys of a body, each with the kind of the clauses that decide it. -/
def bodyParts : List (String × PartKind) :=
  [("query", .matching), ("post_filter", .filter), ("fields", .select), ("sort", .order),
    ("size", .limit), ("from", .offset), ("scroll", .scrollCursor), ("scroll_id", .scrollCursor)]

/-- The keys that the clauses of a kind decide. -/
def bodyKeys (kind : PartKind) : List String :=
  (bodyParts.filter fun part => part.2 = kind).map Prod.fst

lemma nodup_bodyKeys (kind : PartKind) : (bodyKeys kind).Nodup := by
  have hnodup : (bodyParts.map Prod.fst).Nodup := by decide
  exact (List.filter_sublist.map Prod.fst).nodup hnodup

lemma mem_bodyKeys_iff {kind : PartKind} : key ∈ bodyKeys kind ↔ (key, kind) ∈ bodyParts := by
  simp [bodyKeys]

/-- No key is decided by clauses of two kinds. -/
lemma eq_of_mem_bodyKeys {kind kind' : PartKind} (h : key ∈ bodyKeys kind)
    (h' : key ∈ bodyKeys kind') : kind = kind' := by
  rw [mem_bodyKeys_iff] at h h'
  have hnodup : (bodyParts.map Prod.fst).Nodup := by decide
  exact (Prod.mk.inj (List.inj_on_of_nodup_map hnodup h h' rfl)).2

/-- The entries of the fragment of a clause, none if the clause has no fragment. -/
def ownEntries (keepAlive : String) (schema : Schema) (clause : Clause) : List (String × Json) :=
  match fragment keepAlive schema clause with
  | .ok (.obj own) => own.entries
  | _ => []

lemma ownEntries_of_fragment (h : fragment keepAlive schema clause = .ok (.obj own)) :
    ownEntries keepAlive schema clause = own.entries := by
  rw [ownEntries, h]

/-- A fragment has the keys of the kind of its clause. -/
lemma exists_of_fragment (h : fragment keepAlive schema clause = .ok j) :
    ∃ own : JsonObject, j = .obj own ∧ own.keys = bodyKeys clause.kind := by
  cases clause with
  | matching criterion =>
    obtain ⟨value, -, rfl⟩ := exists_of_map_eq_ok h
    exact ⟨_, rfl, rfl⟩
  | filter criterion =>
    obtain ⟨value, -, rfl⟩ := exists_of_map_eq_ok h
    exact ⟨_, rfl, rfl⟩
  | limit value =>
    obtain ⟨n, -, rfl⟩ := exists_of_map_eq_ok h
    exact ⟨_, rfl, rfl⟩
  | offset value =>
    obtain ⟨n, -, rfl⟩ := exists_of_map_eq_ok h
    exact ⟨_, rfl, rfl⟩
  | select attrs =>
    obtain rfl := Except.ok.inj h
    exact ⟨_, rfl, rfl⟩
  | order keys =>
    obtain rfl := Except.ok.inj h
    exact ⟨_, rfl, rfl⟩
  | scrollCursor value =>
    obtain rfl := Except.ok.inj h
    have hlt : ¬ "scroll_id" < "scroll" := by decide
    refine ⟨_, rfl, ?_⟩
    simp [KeyMap.keys, KeyMap.ofList, KeyMap.insert, KeyMap.insertEntry, KeyMap.empty, hlt]
    rfl

/-- The own entries of a clause have the keys of its kind, if it has a fragment. -/
lemma keys_ownEntries_sublist (keepAlive : String) (schema : Schema) (clause : Clause) :
    ((ownEntries keepAlive schema clause).map Prod.fst).Sublist (bodyKeys clause.kind) := by
  rcases hf : fragment keepAlive schema clause with error | f
  · simp [ownEntries, hf]
  · obtain ⟨own, rfl, hkeys⟩ := exists_of_fragment hf
    rw [ownEntries_of_fragment hf, ← hkeys]
    exact List.Sublist.refl _

/-- A fragment none of whose keys is there already is added as it is. -/
lemma mergeFields_eq_insertAll {entries : List (String × Json)}
    (hnodup : (entries.map Prod.fst).Nodup)
    (hnew : ∀ key ∈ entries.map Prod.fst, key ∉ fields.keys) :
    Json.mergeFields entries fields = fields.insertAll entries := by
  induction entries generalizing fields with
  | nil =>
    rw [Json.mergeFields]
    rfl
  | cons entry rest ih =>
    obtain ⟨key, value⟩ := entry
    rw [List.map_cons, List.nodup_cons] at hnodup
    have hnone : fields.get? key = none := by
      have hkey : key ∉ fields.keys := hnew key List.mem_cons_self
      rw [KeyMap.mem_keys_iff] at hkey
      simpa using hkey
    rw [Json.mergeFields, hnone]
    refine ih hnodup.2 fun other hother hmem => ?_
    rcases KeyMap.mem_keys_insert.1 hmem with rfl | hmem
    · exact hnodup.1 hother
    · exact hnew other (List.mem_cons_of_mem _ hother) hmem

/-- Each of the clauses adds its own entries, if none of their keys is there before. -/
lemma addAll_eq_ok_iff (hkinds : (clauses.map Clause.kind).Nodup)
    (hnew : ∀ clause ∈ clauses, ∀ key ∈ bodyKeys clause.kind, key ∉ fields.keys) :
    addAll keepAlive schema (.obj fields) clauses = .ok j ↔
      (∀ clause ∈ clauses, ∃ f, fragment keepAlive schema clause = .ok f) ∧
        j = .obj (fields.insertAll (clauses.flatMap (ownEntries keepAlive schema))) := by
  induction clauses generalizing fields with
  | nil => simp [addAll, KeyMap.insertAll, eq_comm]
  | cons clause rest ih =>
    rw [List.map_cons, List.nodup_cons] at hkinds
    rcases hf : fragment keepAlive schema clause with error | f
    · have haddAll : addAll keepAlive schema (.obj fields) (clause :: rest) = .error error := by
        rw [addAll, hf]
        rfl
      simp [haddAll, hf]
    · obtain ⟨own, rfl, hkeys⟩ := exists_of_fragment hf
      have hown : (Json.obj fields).merge (.obj own) = .obj (fields.insertAll own.entries) := by
        have hnodup : own.keys.Nodup := hkeys ▸ nodup_bodyKeys clause.kind
        have hnotmem : ∀ key ∈ own.keys, key ∉ fields.keys :=
          hkeys ▸ hnew clause List.mem_cons_self
        rw [← mergeFields_eq_insertAll hnodup hnotmem, Json.merge, Json.mergedInto]
      have hnew' : ∀ other ∈ rest, ∀ key ∈ bodyKeys other.kind,
          key ∉ (fields.insertAll own.entries).keys := by
        intro other hother key hkey hmem
        rcases KeyMap.mem_keys_insertAll.1 hmem with hmem | hmem
        · -- the key would belong to two kinds
          have hkey' : key ∈ own.keys := hmem
          have hkind := eq_of_mem_bodyKeys (hkeys ▸ hkey') hkey
          exact hkinds.1 (hkind ▸ List.mem_map_of_mem hother)
        · exact hnew other (List.mem_cons_of_mem _ hother) key hkey hmem
      have haddAll : addAll keepAlive schema (.obj fields) (clause :: rest) =
          addAll keepAlive schema (.obj (fields.insertAll own.entries)) rest := by
        rw [addAll, hf, ← hown]
        rfl
      rw [haddAll, ih hkinds.2 hnew', List.flatMap_cons, ownEntries_of_fragment hf,
        KeyMap.insertAll, KeyMap.insertAll, KeyMap.insertAll, List.foldl_append]
      simp [hf]

/-- The body has the entries of the fragments and no others, and it is there if all the fragments
are. -/
theorem body_eq_ok_iff (hkinds : (clauses.map Clause.kind).Nodup) :
    body keepAlive schema clauses = .ok j ↔
      (∀ clause ∈ clauses, ∃ f, fragment keepAlive schema clause = .ok f) ∧
        j = .obj (.ofList (clauses.flatMap (ownEntries keepAlive schema))) :=
  addAll_eq_ok_iff hkinds (by simp [KeyMap.keys, KeyMap.empty])

/-- No key is given twice. -/
lemma nodup_keys_flatMap_ownEntries (hkinds : (clauses.map Clause.kind).Nodup) :
    ((clauses.flatMap (ownEntries keepAlive schema)).map Prod.fst).Nodup := by
  induction clauses with
  | nil => exact List.nodup_nil
  | cons clause rest ih =>
    rw [List.map_cons, List.nodup_cons] at hkinds
    rw [List.flatMap_cons, List.map_append, List.nodup_append]
    have hown := (keys_ownEntries_sublist keepAlive schema clause).nodup (nodup_bodyKeys _)
    refine ⟨hown, ih hkinds.2, ?_⟩
    rintro key hkey _ hkey' rfl
    obtain ⟨entry, hentry, rfl⟩ := List.mem_map.1 hkey'
    obtain ⟨other, hother, hmem⟩ := List.mem_flatMap.1 hentry
    have hkind := eq_of_mem_bodyKeys ((keys_ownEntries_sublist _ _ _).subset hkey)
      ((keys_ownEntries_sublist _ _ _).subset (List.mem_map_of_mem hmem))
    exact hkinds.1 (hkind ▸ List.mem_map_of_mem hother)

/-- Every entry of a fragment is found in the body. -/
lemma get?_ofList_ownEntries (hkinds : (clauses.map Clause.kind).Nodup) (hclause : clause ∈ clauses)
    (hown : fragment keepAlive schema clause = .ok (.obj own)) {value : Json}
    (hvalue : own.get? key = some value) :
    (KeyMap.ofList (clauses.flatMap (ownEntries keepAlive schema))).get? key = some value := by
  have hmem : (key, value) ∈ clauses.flatMap (ownEntries keepAlive schema) := by
    refine List.mem_flatMap.2 ⟨clause, hclause, ?_⟩
    rw [ownEntries_of_fragment hown]
    exact KeyMap.mem_of_get?_eq_some hvalue
  have hnodup : ((clauses.flatMap (ownEntries keepAlive schema)).map Prod.fst).Nodup :=
    nodup_keys_flatMap_ownEntries hkinds
  exact lookup_eq_some_of_mem (KeyMap.sorted_ofList _).nodup_keys
    ((KeyMap.ofList_perm hnodup).mem_iff.2 hmem)

/-- The fields of a body are put together from the clauses of a query: the keys are those that
belong to the kinds of the clauses, and each clause gives its keys the values that they have in
its own fragment. -/
structure Assembled (keepAlive : String) (schema : Schema) (clauses : List Clause)
    (fields : JsonObject) : Prop where
  sorted : fields.Sorted
  keys : ∀ key, key ∈ fields.keys ↔ ∃ clause ∈ clauses, (key, clause.kind) ∈ bodyParts
  own : ∀ clause ∈ clauses, ∃ own : JsonObject,
    fragment keepAlive schema clause = .ok (.obj own) ∧
    ∀ key, (key, clause.kind) ∈ bodyParts →
      ∃ value, own.get? key = some value ∧ fields.get? key = some value

/-- A body is put together from the clauses, in whatever order they come. -/
theorem assembled_of_body (hkinds : (clauses.map Clause.kind).Nodup)
    (h : body keepAlive schema clauses = .ok j) :
    ∃ fields, j = .obj fields ∧ Assembled keepAlive schema clauses fields := by
  obtain ⟨hall, rfl⟩ := (body_eq_ok_iff hkinds).1 h
  have hown : ∀ clause ∈ clauses, ∃ own : JsonObject,
      fragment keepAlive schema clause = .ok (.obj own) ∧
      ∀ key, (key, clause.kind) ∈ bodyParts → ∃ value, own.get? key = some value ∧
        (KeyMap.ofList (clauses.flatMap (ownEntries keepAlive schema))).get? key = some value := by
    intro clause hclause
    obtain ⟨f, hf⟩ := hall clause hclause
    obtain ⟨own, rfl, hkeys⟩ := exists_of_fragment hf
    refine ⟨own, hf, fun key hkey => ?_⟩
    have hmem : key ∈ own.keys := hkeys ▸ mem_bodyKeys_iff.2 hkey
    obtain ⟨value, hvalue⟩ := Option.isSome_iff_exists.1 (KeyMap.mem_keys_iff.1 hmem)
    exact ⟨value, hvalue, get?_ofList_ownEntries hkinds hclause hf hvalue⟩
  refine ⟨_, rfl, KeyMap.sorted_ofList _, fun key => ?_, hown⟩
  constructor
  · intro hkey
    rw [KeyMap.ofList_eq_insertAll, KeyMap.mem_keys_insertAll] at hkey
    obtain ⟨entry, hentry, rfl⟩ := List.mem_map.1 (hkey.resolve_right List.not_mem_nil)
    obtain ⟨clause, hclause, hmem⟩ := List.mem_flatMap.1 hentry
    have hsub := keys_ownEntries_sublist keepAlive schema clause
    exact ⟨clause, hclause, mem_bodyKeys_iff.1 (hsub.subset (List.mem_map_of_mem hmem))⟩
  · rintro ⟨clause, hclause, hkey⟩
    obtain ⟨own, -, hvalues⟩ := hown clause hclause
    obtain ⟨value, -, hvalue⟩ := hvalues key hkey
    rw [KeyMap.mem_keys_iff, hvalue]
    rfl

theorem body_eq_ok_of_perm (hkinds : (clauses.map Clause.kind).Nodup)
    (hperm : clauses.Perm clauses') (h : body keepAlive schema clauses = .ok j) :
    body keepAlive schema clauses' = .ok j := by
  have hkinds' : (clauses'.map Clause.kind).Nodup := (hperm.map Clause.kind).nodup_iff.1 hkinds
  obtain ⟨hall, rfl⟩ := (body_eq_ok_iff hkinds).1 h
  refine (body_eq_ok_iff hkinds').2
    ⟨fun clause hclause => hall clause (hperm.mem_iff.2 hclause), ?_⟩
  rw [KeyMap.ofList_eq_of_perm (nodup_keys_flatMap_ownEntries hkinds)
    (hperm.flatMap_right (ownEntries keepAlive schema))]

end Elasticsearch

namespace CloudSearch

variable {parser : Parser} {r r' : Request}

/-! ## Requests to CloudSearch -/

/-- The parameter of a request that the clauses of a kind decide, as text. -/
def Request.text? (r : Request) : PartKind → Option String
  | .matching => r.query
  | .filter => r.filterQuery
  | .select => r.returned
  | .order => r.sort
  | .limit => r.size.map Decimal.natText
  | .offset => r.start.map Decimal.natText
  | .scrollCursor => r.cursor
  | _ => none

lemma natText_injective : Function.Injective Decimal.natText := by
  intro m n h
  have hdigits : Nat.toDigits 10 m = Nat.toDigits 10 n := String.ofList_injective h
  have hread := Decimal.naturalOf?_toDigits m
  rw [hdigits, Decimal.naturalOf?_toDigits] at hread
  exact (Option.some.inj hread).symm

/-- A request is determined by its texts and the parser. -/
lemma Request.eq_of_text?_eq (htext : ∀ kind, r.text? kind = r'.text? kind)
    (hparser : r.queryParser = r'.queryParser) : r = r' := by
  obtain ⟨query, queryParser, filterQuery, returned, sort, size, start, cursor⟩ := r
  have hsize := Option.map_injective natText_injective (htext .limit)
  have hstart := Option.map_injective natText_injective (htext .offset)
  obtain rfl : query = r'.query := htext .matching
  obtain rfl : filterQuery = r'.filterQuery := htext .filter
  obtain rfl : returned = r'.returned := htext .select
  obtain rfl : sort = r'.sort := htext .order
  obtain rfl : cursor = r'.cursor := htext .scrollCursor
  obtain rfl : size = r'.size := hsize
  obtain rfl : start = r'.start := hstart
  obtain rfl : queryParser = r'.queryParser := hparser
  rfl

lemma eq_error_of_map_eq_error {ε α β : Type} {f : α → β} {x : Except ε α} {e : ε}
    (h : x.map f = .error e) : x = .error e := by
  cases x with
  | error e' =>
    obtain rfl := Except.error.inj h
    rfl
  | ok a => exact nomatch h

/-- A clause without a text fails in a request as it does by itself. -/
lemma add_eq_error {error : SearchError} (h : clauseText parser schema clause = .error error)
    (r : Request) : r.add parser schema clause = .error error := by
  cases clause with
  | matching criterion => exact congrArg (Except.map _) h
  | filter criterion => exact congrArg (Except.map _) h
  | limit value => exact congrArg (Except.map _) (eq_error_of_map_eq_error h)
  | offset value => exact congrArg (Except.map _) (eq_error_of_map_eq_error h)
  | select attrs => exact nomatch h
  | order keys => exact nomatch h
  | scrollCursor value => exact congrArg (Except.map _) h

/-- A clause that has a text sets the text of its kind, and a main query names the parser. -/
lemma exists_add_eq_ok {text : String} (h : clauseText parser schema clause = .ok text)
    (r : Request) :
    ∃ r', r.add parser schema clause = .ok r' ∧
      (∀ kind, r'.text? kind = if kind = clause.kind then some text else r.text? kind) ∧
      r'.queryParser = if clause.kind = .matching then some parser.name else r.queryParser := by
  cases clause with
  | matching criterion =>
    refine ⟨_, congrArg (Except.map _) h, fun kind => ?_, rfl⟩
    cases kind <;> rfl
  | filter criterion =>
    refine ⟨_, congrArg (Except.map _) h, fun kind => ?_, rfl⟩
    cases kind <;> rfl
  | limit value =>
    obtain ⟨n, hn, rfl⟩ := exists_of_map_eq_ok h
    refine ⟨_, congrArg (Except.map _) hn, fun kind => ?_, rfl⟩
    cases kind <;> rfl
  | offset value =>
    obtain ⟨n, hn, rfl⟩ := exists_of_map_eq_ok h
    refine ⟨_, congrArg (Except.map _) hn, fun kind => ?_, rfl⟩
    cases kind <;> rfl
  | select attrs =>
    obtain rfl := Except.ok.inj h
    refine ⟨_, rfl, fun kind => ?_, rfl⟩
    cases kind <;> rfl
  | order keys =>
    obtain rfl := Except.ok.inj h
    refine ⟨_, rfl, fun kind => ?_, rfl⟩
    cases kind <;> rfl
  | scrollCursor value =>
    refine ⟨_, congrArg (Except.map _) h, fun kind => ?_, rfl⟩
    cases kind <;> rfl

/-- A request is put together from the clauses of a query: its parts are the texts of the clauses
of their kinds, and it names the parser if there is a main query. -/
structure Request.Assembled (parser : Parser) (schema : Schema) (clauses : List Clause)
    (r : Request) : Prop where
  text : ∀ kind text, r.text? kind = some text ↔
    ∃ clause ∈ clauses, clause.kind = kind ∧ clauseText parser schema clause = .ok text
  parser : ∀ name, r.queryParser = some name ↔
    name = parser.name ∧ ∃ clause ∈ clauses, clause.kind = .matching

namespace Request

lemma Assembled.empty : Assembled parser schema [] Request.empty := by
  constructor
  · intro kind text
    cases kind <;> simp [text?, Request.empty]
  · simp [Request.empty]

/-- One more clause, of a kind that was not there. -/
lemma Assembled.add (h : Assembled parser schema clauses r)
    (hnew : clause.kind ∉ clauses.map Clause.kind) {text : String}
    (htext : clauseText parser schema clause = .ok text) :
    ∃ r', r.add parser schema clause = .ok r' ∧
      Assembled parser schema (clauses ++ [clause]) r' := by
  obtain ⟨r', hadd, htexts, hparser⟩ := exists_add_eq_ok htext r
  refine ⟨r', hadd, fun kind other => ?_, fun name => ?_⟩
  · rw [htexts]
    by_cases hkind : kind = clause.kind
    · -- none of the clauses before has a text of this kind
      subst hkind
      have hnone : ¬ ∃ c ∈ clauses, c.kind = clause.kind ∧ clauseText parser schema c = .ok other :=
        fun ⟨c, hc, heq, _⟩ => hnew (heq ▸ List.mem_map_of_mem hc)
      simp [List.mem_append, or_and_right, exists_or, hnone, htext]
    · simp [hkind, h.text, List.mem_append, or_and_right, exists_or, Ne.symm hkind]
  · rw [hparser]
    by_cases hkind : clause.kind = .matching
    · simp [hkind, List.mem_append, or_and_right, exists_or, eq_comm]
    · simp [hkind, h.parser, List.mem_append, or_and_right, exists_or]

/-- Some more clauses, all of different kinds. -/
lemma Assembled.addAll {done : List Clause} (h : Assembled parser schema done r)
    (hkinds : ((done ++ clauses).map Clause.kind).Nodup)
    (htexts : ∀ clause ∈ clauses, ∃ text, clauseText parser schema clause = .ok text) :
    ∃ r', r.addAll parser schema clauses = .ok r' ∧
      Assembled parser schema (done ++ clauses) r' := by
  induction clauses generalizing done r with
  | nil => exact ⟨r, rfl, by simpa using h⟩
  | cons clause rest ih =>
    obtain ⟨text, htext⟩ := htexts clause List.mem_cons_self
    have hnew : clause.kind ∉ done.map Clause.kind := by
      rw [List.map_append, List.nodup_append] at hkinds
      exact fun hmem => hkinds.2.2 _ hmem _ List.mem_cons_self rfl
    obtain ⟨r₁, hadd, h₁⟩ := h.add hnew htext
    rw [List.append_cons] at hkinds ⊢
    obtain ⟨r', haddAll, h'⟩ :=
      ih h₁ hkinds fun other hother => htexts other (List.mem_cons_of_mem _ hother)
    refine ⟨r', ?_, h'⟩
    rw [Request.addAll, hadd]
    exact haddAll

/-- There is only one request that is put together from some clauses. -/
lemma Assembled.unique (h : Assembled parser schema clauses r)
    (h' : Assembled parser schema clauses r') : r = r' := by
  refine eq_of_text?_eq (fun kind => Option.ext fun text => ?_) (Option.ext fun name => ?_)
  · rw [h.text, h'.text]
  · rw [h.parser, h'.parser]

lemma Assembled.perm (h : Assembled parser schema clauses r) (hperm : clauses.Perm clauses') :
    Assembled parser schema clauses' r := by
  obtain ⟨htext, hparser⟩ := h
  simp only [hperm.mem_iff] at htext hparser
  exact ⟨htext, hparser⟩

lemma exists_clauseText_of_addAll (h : r.addAll parser schema clauses = .ok r') :
    ∀ clause ∈ clauses, ∃ text, clauseText parser schema clause = .ok text := by
  induction clauses generalizing r with
  | nil => simp
  | cons clause rest ih =>
    obtain ⟨r₁, hadd, hrest⟩ := exists_of_bind_eq_ok h
    intro other hother
    rcases List.mem_cons.1 hother with rfl | hother
    · rcases htext : clauseText parser schema other with error | text
      · rw [add_eq_error htext] at hadd
        exact nomatch hadd
      · exact ⟨text, rfl⟩
    · exact ih hrest other hother

end Request

/-- Clauses of different kinds that all have texts are put together to a request. -/
lemma exists_request (hkinds : (clauses.map Clause.kind).Nodup)
    (htexts : ∀ clause ∈ clauses, ∃ text, clauseText parser schema clause = .ok text) :
    ∃ r, request parser schema clauses = .ok r ∧ r.Assembled parser schema clauses :=
  Request.Assembled.empty.addAll hkinds htexts

theorem request_eq_ok_iff (hkinds : (clauses.map Clause.kind).Nodup) :
    request parser schema clauses = .ok r ↔
      (∀ clause ∈ clauses, ∃ text, clauseText parser schema clause = .ok text) ∧
        r.Assembled parser schema clauses := by
  constructor
  · intro h
    have htexts := Request.exists_clauseText_of_addAll h
    obtain ⟨r', hr', h'⟩ := exists_request hkinds htexts
    obtain rfl : r = r' := Except.ok.inj (h.symm.trans hr')
    exact ⟨htexts, h'⟩
  · rintro ⟨htexts, h⟩
    obtain ⟨r', hr', h'⟩ := exists_request hkinds htexts
    rw [h.unique h']
    exact hr'

theorem request_eq_ok_of_perm (hkinds : (clauses.map Clause.kind).Nodup)
    (hperm : clauses.Perm clauses') (h : request parser schema clauses = .ok r) :
    request parser schema clauses' = .ok r := by
  have hkinds' : (clauses'.map Clause.kind).Nodup := (hperm.map Clause.kind).nodup_iff.1 hkinds
  obtain ⟨htexts, hassembled⟩ := (request_eq_ok_iff hkinds).1 h
  exact (request_eq_ok_iff hkinds').2
    ⟨fun clause hclause => htexts clause (hperm.mem_iff.2 hclause), hassembled.perm hperm⟩

end CloudSearch

/-! ## Built queries -/

/-- The kinds of clauses in the order in which a builder puts them. -/
def QueryBuilder.kinds : List PartKind :=
  [.matching, .select, .order, .limit, .offset, .filter, .scrollCursor]

/-- The clauses of a built query are of different kinds. -/
theorem QueryBuilder.nodup_kinds (b : QueryBuilder) (index : SearchIndex) :
    ((b.build index).clauses.map Clause.kind).Nodup := by
  have hgiven {α : Type} (o : Option α) (make : α → Clause) {kind : PartKind}
      (hmake : ∀ a, (make a).kind = kind) :
      ((o.map make).toList.map Clause.kind).Sublist [kind] := by
    cases o with
    | none => exact List.nil_sublist _
    | some a => simp [hmake]
  have hadded (p : Bool) (clause : Clause) :
      ((if p then [] else [clause]).map Clause.kind).Sublist [clause.kind] := by
    cases p <;> simp
  have hmatching := hgiven b.matching Clause.matching fun _ => rfl
  have hselect := hadded b.select.isEmpty (.select b.select)
  have horder := hadded b.order.isEmpty (.order b.order)
  have hlimit := hgiven b.limit (fun n => Clause.limit (countLiteral n)) fun _ => rfl
  have hoffset := hgiven b.offset (fun n => Clause.offset (countLiteral n)) fun _ => rfl
  have hfilter := hgiven b.filter Clause.filter fun _ => rfl
  have hcursor := hgiven b.scrollCursor (fun text => Clause.scrollCursor (.text text)) fun _ => rfl
  have hsublist : ((b.build index).clauses.map Clause.kind).Sublist kinds := by
    simp only [build, Query.ofClauses, clauses, List.map_append]
    exact (((((hmatching.append hselect).append horder).append hlimit).append hoffset).append
      hfilter).append hcursor
  exact hsublist.nodup (by decide)

/-! ## The main statement -/

/-- **Assembling ignores the order.**  A builder gives clauses of different kinds.  Let some
clauses be of different kinds.  Compiled for either engine, and by either parser, they give a
request in one order exactly when they give it in any other.  There is one exactly when every
clause by itself has a form in the language of the engine, and then it has the parts of these
clauses, just as each of them has it by itself, and no other parts. -/
theorem assembly_ignores_order :
    (∀ (b : QueryBuilder) (index : SearchIndex),
      ((b.build index).clauses.map Clause.kind).Nodup) ∧
    ∀ {clauses clauses' : List Clause}, (clauses.map Clause.kind).Nodup →
      clauses.Perm clauses' → ∀ schema : Schema,
      (∀ keepAlive : String,
        (∀ j, Elasticsearch.body keepAlive schema clauses = .ok j ↔
          Elasticsearch.body keepAlive schema clauses' = .ok j) ∧
        ((∃ j, Elasticsearch.body keepAlive schema clauses = .ok j) ↔
          ∀ clause ∈ clauses, ∃ f, Elasticsearch.fragment keepAlive schema clause = .ok f) ∧
        ∀ j, Elasticsearch.body keepAlive schema clauses = .ok j →
          ∃ fields, j = .obj fields ∧
            Elasticsearch.Assembled keepAlive schema clauses fields) ∧
      ∀ parser : CloudSearch.Parser,
        (∀ r, CloudSearch.request parser schema clauses = .ok r ↔
          CloudSearch.request parser schema clauses' = .ok r) ∧
        ((∃ r, CloudSearch.request parser schema clauses = .ok r) ↔
          ∀ clause ∈ clauses, ∃ text, CloudSearch.clauseText parser schema clause = .ok text) ∧
        ∀ r, CloudSearch.request parser schema clauses = .ok r →
          r.Assembled parser schema clauses := by
  refine ⟨QueryBuilder.nodup_kinds, ?_⟩
  intro clauses clauses' hkinds hperm schema
  have hkinds' : (clauses'.map Clause.kind).Nodup := (hperm.map Clause.kind).nodup_iff.1 hkinds
  constructor
  · intro keepAlive
    refine ⟨fun j => ⟨?_, ?_⟩, ?_, fun j => Elasticsearch.assembled_of_body hkinds⟩
    · exact Elasticsearch.body_eq_ok_of_perm hkinds hperm
    · exact Elasticsearch.body_eq_ok_of_perm hkinds' hperm.symm
    · simp [Elasticsearch.body_eq_ok_iff hkinds]
  · intro parser
    refine ⟨fun r => ⟨?_, ?_⟩, ?_, fun r hr => ((CloudSearch.request_eq_ok_iff hkinds).1 hr).2⟩
    · exact CloudSearch.request_eq_ok_of_perm hkinds hperm
    · exact CloudSearch.request_eq_ok_of_perm hkinds' hperm.symm
    · constructor
      · rintro ⟨r, hr⟩
        exact ((CloudSearch.request_eq_ok_iff hkinds).1 hr).1
      · intro htexts
        obtain ⟨r, hr, -⟩ := CloudSearch.exists_request hkinds htexts
        exact ⟨r, hr⟩

/-- A place to go on from and a limit, in one order and in the other. -/
theorem assembly_ignores_order_of_cursor :
    let clauses : List Clause := [.scrollCursor (.text "c2Nyb2xs"), .limit (.integer 5)]
    let body : Json := .obj
      ⟨[("scroll", .str "1m"), ("scroll_id", .str "c2Nyb2xs"), ("size", .nat 5)]⟩
    let request : CloudSearch.Request :=
      { CloudSearch.Request.empty with cursor := some "c2Nyb2xs", size := some 5 }
    (clauses.map Clause.kind).Nodup ∧ clauses.Perm clauses.reverse ∧
      Elasticsearch.body "1m" .empty clauses.reverse = .ok body ∧
      CloudSearch.request .simple .empty clauses.reverse = .ok request := by
  intro clauses body request
  have hkinds : (clauses.map Clause.kind).Nodup := by decide
  have hperm : clauses.Perm clauses.reverse := (List.reverse_perm clauses).symm
  have hbody : Elasticsearch.body "1m" .empty clauses = .ok body := rfl
  have hrequest : CloudSearch.request .simple .empty clauses = .ok request := rfl
  obtain ⟨hengine, hparser⟩ := assembly_ignores_order.2 hkinds hperm .empty
  exact ⟨hkinds, hperm, ((hengine "1m").1 body).1 hbody, ((hparser .simple).1 request).1 hrequest⟩

end SearchGateway
