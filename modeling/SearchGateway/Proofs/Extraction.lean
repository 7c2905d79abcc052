import SearchGateway.Proofs.Walks

/-!
# Generated documents

The gateway makes the document of an object while it walks through the objects that this object
shows.  A pass over an object therefore ends in one of two ways (`Outcome`): with a document, after
the walk has come back to what was waiting, or at an object that the walk cannot enter.  In the
first case the document is a portrait of the object (`Portrays`): it has a row for each field that
is not left out, in the order of the fields, and for each object that was begun on the way one
document inside it.

The number of steps that a pass is given is no restriction, since the walk never begins as many
objects.
-/
namespace SearchGateway

/-! ## Passes and their observers -/

lemma Pass.result_map {α β : Type} (f : α → β) (p : Pass α) (seen : Observer) :
    result (f <$> p) seen = ((result p seen).1.map f, (result p seen).2) := by
  simp only [result]
  rw [ExceptT.run_map, StateT.run_map]
  rfl

namespace Observer

/-- The observer that has seen some objects, one after the other. -/
def after (begun : List SourceObject) : Observer := ⟨(begun.map (·.identity)).reverse⟩

lemma mem_visited_after {begun : List SourceObject} {identity : String} :
    identity ∈ (after begun).visited ↔ identity ∈ begun.map (·.identity) :=
  List.mem_reverse

lemma after_append_singleton (begun : List SourceObject) (o : SourceObject) :
    after (begun ++ [o]) = ⟨o.identity :: (after begun).visited⟩ := by
  simp [after]

end Observer

/-! ## Portraits -/

/-- The rows that some fields of an object give its document on an index, and the objects that
were begun for their sake: a field that shows another object nests a document with the rows of
that object. -/
inductive ShowsRows (c : Corpus) (index : String) : SourceObject → List (String × ContentField) →
    List (String × FieldValue) → List SourceObject → Prop
  | nil {o : SourceObject} : ShowsRows c index o [] [] []
  | nothing {o : SourceObject} {row : String × ContentField}
      {rows : List (String × ContentField)} {entries : List (String × FieldValue)}
      {visited : List SourceObject} (hshown : c.shown index o row.2 = .nothing)
      (hrest : ShowsRows c index o rows entries visited) :
      ShowsRows c index o (row :: rows) entries visited
  | value {o : SourceObject} {row : String × ContentField} {rows : List (String × ContentField)}
      {entries : List (String × FieldValue)} {visited : List SourceObject} {value : FieldValue}
      (hshown : c.shown index o row.2 = .value value)
      (hrest : ShowsRows c index o rows entries visited) :
      ShowsRows c index o (row :: rows) ((row.1, value) :: entries) visited
  | portrait {o object : SourceObject} {row : String × ContentField}
      {rows : List (String × ContentField)} {entries : List (String × FieldValue)}
      {visited inner : List SourceObject} {content : Content} {document : Document}
      (hshown : c.shown index o row.2 = .portrait object)
      (hcontent : c.registry.content? object.typeName index = some content)
      (hinner : ShowsRows c index object content.fields.rows document.rows inner)
      (hrest : ShowsRows c index o rows entries visited) :
      ShowsRows c index o (row :: rows) ((row.1, .nested document) :: entries)
        (object :: inner ++ visited)

/-- The document of an object on an index, and the objects that have their documents in it, the
object itself first. -/
def Portrays (c : Corpus) (index : String) (o : SourceObject) (document : Document)
    (visited : List SourceObject) : Prop :=
  ∃ content inner, c.registry.content? o.typeName index = some content ∧ visited = o :: inner ∧
    ShowsRows c index o content.fields.rows document.rows inner

section Portraits

variable {c : Corpus} {index : String} {o : SourceObject} {rows : List (String × ContentField)}
  {entries entries' : List (String × FieldValue)} {visited visited' : List SourceObject}

lemma ShowsRows.unique (h : ShowsRows c index o rows entries visited)
    (h' : ShowsRows c index o rows entries' visited') :
    entries = entries' ∧ visited = visited' := by
  induction h generalizing entries' visited' with
  | nil =>
    cases h'
    exact ⟨rfl, rfl⟩
  | nothing hshown _ ih =>
    cases h' with
    | nothing _ hrest => exact ih hrest
    | value hshown' _ => cases hshown.symm.trans hshown'
    | portrait hshown' _ _ _ => cases hshown.symm.trans hshown'
  | value hshown _ ih =>
    cases h' with
    | nothing hshown' _ => cases hshown.symm.trans hshown'
    | value hshown' hrest =>
      cases hshown.symm.trans hshown'
      obtain ⟨rfl, rfl⟩ := ih hrest
      exact ⟨rfl, rfl⟩
    | portrait hshown' _ _ _ => cases hshown.symm.trans hshown'
  | portrait hshown hcontent _ _ ihinner ih =>
    cases h' with
    | nothing hshown' _ => cases hshown.symm.trans hshown'
    | value hshown' _ => cases hshown.symm.trans hshown'
    | @portrait _ _ _ _ _ _ _ _ document' hshown' hcontent' hinner' hrest =>
      cases hshown.symm.trans hshown'
      cases hcontent.symm.trans hcontent'
      obtain ⟨hdocument, rfl⟩ := ihinner hinner'
      obtain ⟨rfl, rfl⟩ := ih hrest
      obtain ⟨rows'⟩ := document'
      cases hdocument
      exact ⟨rfl, rfl⟩

/-- An object has one portrait. -/
lemma Portrays.unique {document document' : Document} (h : Portrays c index o document visited)
    (h' : Portrays c index o document' visited') : document = document' := by
  obtain ⟨content, inner, hcontent, -, hshows⟩ := h
  obtain ⟨content', inner', hcontent', -, hshows'⟩ := h'
  cases hcontent.symm.trans hcontent'
  obtain ⟨rows⟩ := document
  obtain ⟨rows'⟩ := document'
  exact congrArg Table.mk (hshows.unique hshows').1

/-- What a document is when some fields have been read after it was begun: it has their rows
behind the rows that it had before. -/
def Continues (c : Corpus) (index : String) (o : SourceObject) (document : Document)
    (rows : List (String × ContentField)) (result : Document) (visited : List SourceObject) :
    Prop :=
  ∃ entries, result.rows = document.rows ++ entries ∧ ShowsRows c index o rows entries visited

variable {document result nested : Document} {row : String × ContentField}

lemma continues_nil (document : Document) : Continues c index o document [] document [] :=
  ⟨[], (List.append_nil _).symm, .nil⟩

lemma Continues.nothing (h : Continues c index o document rows result visited)
    (hshown : c.shown index o row.2 = .nothing) :
    Continues c index o document (row :: rows) result visited := by
  obtain ⟨entries, hresult, hshows⟩ := h
  exact ⟨entries, hresult, .nothing hshown hshows⟩

lemma Continues.value {value : FieldValue}
    (h : Continues c index o (document.set row.1 value) rows result visited)
    (hshown : c.shown index o row.2 = .value value) (hnew : row.1 ∉ document.names) :
    Continues c index o document (row :: rows) result visited := by
  obtain ⟨entries, hresult, hshows⟩ := h
  rw [Table.rows_set_of_not_mem value hnew, List.append_assoc] at hresult
  exact ⟨(row.1, value) :: entries, hresult, .value hshown hshows⟩

lemma Continues.portrait {object : SourceObject}
    (h : Continues c index o (document.set row.1 (.nested nested)) rows result visited)
    (hshown : c.shown index o row.2 = .portrait object) (hnew : row.1 ∉ document.names)
    (hportrays : Portrays c index object nested visited') :
    Continues c index o document (row :: rows) result (visited' ++ visited) := by
  obtain ⟨entries, hresult, hshows⟩ := h
  obtain ⟨content, inner, hcontent, rfl, hinner⟩ := hportrays
  rw [Table.rows_set_of_not_mem _ hnew, List.append_assoc] at hresult
  exact ⟨(row.1, .nested nested) :: entries, hresult, .portrait hshown hcontent hinner hshows⟩

lemma Continues.of_empty (h : Continues c index o .empty rows result visited) :
    ShowsRows c index o rows result.rows visited := by
  obtain ⟨entries, hresult, hshows⟩ := h
  rw [hresult]
  exact hshows

end Portraits

/-! ## How a pass ends -/

/-- How a pass over some objects ends, when some objects were begun before it.  Either it gives
what is to be shown of the objects, and the walk has come back to what was waiting; or it is an
error, and the walk is at an object that was begun before.  It never lacks a result. -/
inductive Outcome (c : Corpus) (index : String) {α : Type} (shows : α → List SourceObject → Prop)
    (heads begun : List SourceObject) : Option (Except SearchError α × Observer) → Prop
  | done {a : α} {visited : List SourceObject} (hshows : shows a visited)
      (hwalk : ∀ rest, Walk.Reaches c index ⟨heads ++ rest, begun⟩ ⟨rest, begun ++ visited⟩) :
      Outcome c index shows heads begun (some (.ok a, .after (begun ++ visited)))
  | stopped {o : SourceObject} {more begun' : List SourceObject}
      (hwalk : ∀ rest, Walk.Reaches c index ⟨heads ++ rest, begun⟩ ⟨o :: more ++ rest, begun'⟩)
      (hmem : o.identity ∈ begun'.map (·.identity)) :
      Outcome c index shows heads begun
        (some (.error (.circularReference o.identity), .after begun'))

namespace Outcome

variable {c : Corpus} {index : String} {α β : Type} {shows shows' : α → List SourceObject → Prop}
  {heads heads' begun : List SourceObject} {r r' : Option (Except SearchError α × Observer)}
  {out : Except SearchError α} {seen : Observer} {identity : String}

lemma imp (h : Outcome c index shows heads begun r)
    (himp : ∀ a visited, shows a visited → shows' a visited) :
    Outcome c index shows' heads begun r := by
  cases h with
  | done hshows hwalk => exact .done (himp _ _ hshows) hwalk
  | stopped hwalk hmem => exact .stopped hwalk hmem

/-- One pass after another. -/
lemma bind {shows' : β → List SourceObject → Prop} {p : Descent α} {f : α → Descent β}
    (h : Outcome c index shows heads begun (p.result? seen))
    (hnext : ∀ a visited, shows a visited →
      (∀ rest, Walk.Reaches c index ⟨heads ++ rest, begun⟩ ⟨rest, begun ++ visited⟩) →
        Outcome c index (fun b more => shows' b (visited ++ more)) heads' (begun ++ visited)
          ((f a).result? (.after (begun ++ visited)))) :
    Outcome c index shows' (heads ++ heads') begun (Descent.result? (p >>= f) seen) := by
  rw [Descent.result?_bind]
  generalize p.result? seen = r at h
  cases h with
  | @done a visited hshows hwalk =>
    have hsecond := hnext a visited hshows hwalk
    simp only
    generalize (f a).result? (.after (begun ++ visited)) = r' at hsecond ⊢
    cases hsecond with
    | @done b more hshows' hwalk' =>
      have hboth : ∀ rest, Walk.Reaches c index ⟨heads ++ heads' ++ rest, begun⟩
          ⟨rest, begun ++ (visited ++ more)⟩ := by
        intro rest
        rw [List.append_assoc heads, ← List.append_assoc begun]
        exact (hwalk (heads' ++ rest)).trans (hwalk' rest)
      rw [List.append_assoc]
      exact .done hshows' hboth
    | @stopped o more begun' hwalk' hmem =>
      have hboth : ∀ rest, Walk.Reaches c index ⟨heads ++ heads' ++ rest, begun⟩
          ⟨o :: more ++ rest, begun'⟩ := by
        intro rest
        rw [List.append_assoc heads]
        exact (hwalk (heads' ++ rest)).trans (hwalk' rest)
      exact .stopped hboth hmem
  | @stopped o more begun' hwalk hmem =>
    have hboth : ∀ rest, Walk.Reaches c index ⟨heads ++ heads' ++ rest, begun⟩
        ⟨o :: (more ++ heads') ++ rest, begun'⟩ := by
      intro rest
      rw [List.append_assoc heads, ← List.cons_append, List.append_assoc (o :: more)]
      exact hwalk (heads' ++ rest)
    exact .stopped hboth hmem

lemma map (f : α → β) (h : Outcome c index shows heads begun r) :
    Outcome c index (fun b visited => ∃ a, b = f a ∧ shows a visited) heads begun
      (r.map fun result => (result.1.map f, result.2)) := by
  cases h with
  | done hshows hwalk => exact .done ⟨_, rfl, hshows⟩ hwalk
  | stopped hwalk hmem => exact .stopped hwalk hmem

/-- A pass that enters an object before it goes on with the objects that this one shows. -/
lemma enter {o : SourceObject} (hnew : o.identity ∉ begun.map (·.identity))
    (h : Outcome c index shows (c.next index o) (begun ++ [o]) r) :
    Outcome c index (fun a visited => ∃ inner, visited = o :: inner ∧ shows a inner) [o] begun
      r := by
  have hstep : ∀ rest, Walk.Step c index ⟨[o] ++ rest, begun⟩
      ⟨c.next index o ++ rest, begun ++ [o]⟩ := fun rest => .enter hnew
  cases h with
  | @done a visited hshows hwalk =>
    rw [List.append_assoc]
    refine .done ⟨visited, rfl, hshows⟩ fun rest => ?_
    have h := hwalk rest
    rw [List.append_assoc] at h
    exact .head (hstep rest) h
  | stopped hwalk hmem => exact .stopped (fun rest => .head (hstep rest) (hwalk rest)) hmem

/-! ### What an outcome says about the walk -/

/-- The walk ends with the pass. -/
lemma settled (h : Outcome c index shows heads begun r) :
    (∃ a visited, r = some (.ok a, .after (begun ++ visited)) ∧ shows a visited ∧
      Walk.Reaches c index ⟨heads, begun⟩ ⟨[], begun ++ visited⟩) ∨
    ∃ o more begun', r = some (.error (.circularReference o.identity), .after begun') ∧
      Walk.Reaches c index ⟨heads, begun⟩ ⟨o :: more, begun'⟩ ∧
      Moment.Repeats ⟨o :: more, begun'⟩ o.identity := by
  cases h with
  | @done a visited hshows hwalk =>
    have hend := hwalk []
    rw [List.append_nil] at hend
    exact .inl ⟨a, visited, rfl, hshows, hend⟩
  | @stopped o more begun' hwalk hmem =>
    have hend := hwalk []
    rw [List.append_nil, List.append_nil] at hend
    exact .inr ⟨o, more, begun', rfl, hend, o, more, rfl, rfl, hmem⟩

/-- A pass fails exactly where the walk is stuck at an object that was begun before. -/
lemma eq_error_iff (h : Outcome c index shows heads begun (some (out, seen))) :
    out = .error (.circularReference identity) ↔
      ∃ m, Walk.Reaches c index ⟨heads, begun⟩ m ∧ m.Repeats identity := by
  rcases h.settled with ⟨a, visited, ⟨⟩, -, hend⟩ | ⟨o, more, begun', ⟨⟩, hend, hagain⟩
  · refine iff_of_false (by simp) ?_
    rintro ⟨m, hm, hrepeats⟩
    exact Walk.not_repeats_of_reaches hend ⟨m, identity, hm, hrepeats⟩
  · constructor
    · intro herror
      simp only [Except.error.injEq, SearchError.circularReference.injEq] at herror
      exact ⟨_, hend, herror ▸ hagain⟩
    · rintro ⟨m, hm, hrepeats⟩
      obtain rfl := Walk.eq_of_reaches hend hm (Walk.stuck_of_repeats hagain)
        (Walk.stuck_of_repeats hrepeats)
      obtain ⟨o', rest, hpending, rfl, -⟩ := hrepeats
      obtain ⟨rfl, -⟩ := List.cons.inj hpending
      rfl

lemma exists_of_not_repeats (h : Outcome c index shows heads begun (some (out, seen)))
    (hfree : ¬ ∃ m identity, Walk.Reaches c index ⟨heads, begun⟩ m ∧ m.Repeats identity) :
    ∃ a visited, out = .ok a ∧ shows a visited ∧
      Walk.Reaches c index ⟨heads, begun⟩ ⟨[], begun ++ visited⟩ := by
  rcases h.settled with ⟨a, visited, ⟨⟩, hshows, hend⟩ | ⟨o, more, begun', -, hend, hagain⟩
  · exact ⟨a, visited, rfl, hshows, hend⟩
  · exact absurd ⟨_, _, hend, hagain⟩ hfree

/-- Two passes over the same objects end in the same way, if what they give is determined by the
objects that were begun. -/
lemma eq_of_unique (h : Outcome c index shows heads begun r)
    (h' : Outcome c index shows heads begun r')
    (hunique : ∀ {a a' visited}, shows a visited → shows a' visited → a = a') : r = r' := by
  rcases h.settled with ⟨a, visited, rfl, hshows, hend⟩ | ⟨o, more, begun₁, rfl, hend, hagain⟩ <;>
    rcases h'.settled with
      ⟨a', visited', rfl, hshows', hend'⟩ | ⟨o', more', begun₂, rfl, hend', hagain'⟩
  · have heq := Walk.eq_of_reaches hend hend' (Walk.stuck_of_nil _) (Walk.stuck_of_nil _)
    simp only [Moment.mk.injEq, true_and, List.append_cancel_left_eq] at heq
    subst heq
    rw [hunique hshows hshows']
  · have heq := Walk.eq_of_reaches hend hend' (Walk.stuck_of_nil _) (Walk.stuck_of_repeats hagain')
    cases heq
  · have heq := Walk.eq_of_reaches hend hend' (Walk.stuck_of_repeats hagain) (Walk.stuck_of_nil _)
    cases heq
  · have heq := Walk.eq_of_reaches hend hend' (Walk.stuck_of_repeats hagain)
      (Walk.stuck_of_repeats hagain')
    cases heq
    rfl

end Outcome

/-! ## Extraction -/

namespace Corpus

variable {c : Corpus} {index : String} {root o : SourceObject} {begun : List SourceObject}

/-- The types of all objects have a content on the index, with different names of fields, and no
object answers with an error of its own. -/
structure Registered (c : Corpus) (index : String) (root : SourceObject) : Prop where
  content : ∀ o ∈ c.everyone root, ∃ content,
    c.registry.content? o.typeName index = some content ∧ content.fields.Distinct
  answer : ∀ o ∈ c.everyone root, ∀ answer, o.source = .own answer →
    ∃ document?, answer index = .ok document?

/-- The document of an object inside another document, if it has one. -/
def nestWithin (c : Corpus) (index : String) (depth : Nat) (object : SourceObject) :
    Descent (Option Document) :=
  object.generate index (c.extractWithin index depth object)

/-- What a field shows decides how the reading goes on. -/
lemma readFields_cons (hregistered : c.Registered index root) (depth : Nat) (o : SourceObject)
    (document : Document) (row : String × ContentField) (rows : List (String × ContentField)) :
    c.readFields (c.nestWithin index depth) o document (row :: rows) =
      match c.shown index o row.2 with
      | .nothing => c.readFields (c.nestWithin index depth) o document rows
      | .value value => c.readFields (c.nestWithin index depth) o (document.set row.1 value) rows
      | .portrait object =>
        c.extractWithin index depth object >>= fun nested =>
          c.readFields (c.nestWithin index depth) o (document.set row.1 (.nested nested)) rows := by
  obtain ⟨name, field⟩ := row
  rw [readFields, shown]
  split
  case h_1 hread => simp only [hread]
  case h_2 hread => simp only [hread]
  case h_3 hnull hread hstruct => simp only [hread, hstruct]
  case h_4 hnull hread hstruct => simp only [hread, hstruct]
  case h_5 hread hstruct => simp only [hread, hstruct]
  case h_6 reference hread hstruct =>
    simp only [hread, hstruct, shownThrough]
    rcases hobject : c.objects.get? reference with _ | object
    · rfl
    · rcases hsource : object.source with _ | answer
      · simp only [nestWithin, SourceObject.generate, hsource, bind_map_left]
      · have hmem : object ∈ c.everyone root := List.mem_cons_of_mem _ (mem_all_of_get? hobject)
        obtain ⟨document?, hanswer⟩ := hregistered.answer object hmem answer hsource
        have hnest : c.nestWithin index depth object = pure document? := by
          simp only [nestWithin, SourceObject.generate, hsource, hanswer]
          rfl
        rcases document? with _ | nested <;> simp only [hnest, hsource, hanswer, pure_bind]

/-- An object is begun before its fields are read. -/
lemma result?_extractWithin_succ {content : Content} (depth : Nat)
    (hcontent : c.registry.content? o.typeName index = some content) (seen : Observer) :
    (c.extractWithin index (depth + 1) o).result? seen =
      if o.identity ∈ seen.visited then some (.error (.circularReference o.identity), seen)
      else Descent.result?
        (c.readFields (c.nestWithin index depth) o .empty content.fields.rows)
        ⟨o.identity :: seen.visited⟩ := by
  have hcontent' :
      Descent.result? (liftM (c.registry.content o.typeName index) : Descent Content) seen =
        some (.ok content, seen) := by
    rw [Registry.content, hcontent]
    rfl
  rw [extractWithin, Descent.result?_bind, hcontent']
  simp only
  rw [Descent.result?_bind, Descent.result?_add]
  by_cases h : o.identity ∈ seen.visited
  · simp only [if_pos h]
  · simp only [if_neg h]
    rfl

lemma next_eq {content : Content} (hcontent : c.registry.content? o.typeName index = some content) :
    c.next index o = c.shownObjects index o content.fields.rows := by
  rw [next, hcontent]

/-- The pass that the gateway makes goes down as far as it has to. -/
lemma some_result_extract (c : Corpus) (index : String) (o : SourceObject) (seen : Observer) :
    some (Pass.result (c.extract index o) seen) =
      (c.extractWithin index c.depth o).result? seen :=
  Option.some_get _

/-- If the passes over other objects end as they should, so does the reading of some fields. -/
lemma outcome_readFields (hregistered : c.Registered index root) {depth : Nat}
    (hnest : ∀ object begun, Walk.Sound c root ⟨[object], begun⟩ →
      c.depth ≤ begun.length + depth → Outcome c index (Portrays c index object) [object] begun
        ((c.extractWithin index depth object).result? (.after begun)))
    (rows : List (String × ContentField)) (document : Document) (begun : List SourceObject)
    (hnames : (document.names ++ rows.map Prod.fst).Nodup)
    (hsound : Walk.Sound c root ⟨c.shownObjects index o rows, begun⟩)
    (hdepth : c.depth ≤ begun.length + depth) :
    Outcome c index (Continues c index o document rows) (c.shownObjects index o rows) begun
      (Descent.result? (c.readFields (c.nestWithin index depth) o document rows)
        (.after begun)) := by
  induction rows generalizing document begun with
  | nil =>
    have hdone : Outcome c index (Continues c index o document []) [] begun
        (some (.ok document, .after (begun ++ []))) := .done (continues_nil document) fun rest => by
      rw [List.append_nil]
      exact .refl
    rwa [List.append_nil] at hdone
  | cons row rows ih =>
    rw [List.map_cons] at hnames
    have hnew : row.1 ∉ document.names := fun hmem =>
      (List.nodup_append.1 hnames).2.2 _ hmem _ List.mem_cons_self rfl
    -- the names stay different when the field has set its value
    have hset : ∀ value : FieldValue,
        ((Table.set document row.1 value).names ++ rows.map Prod.fst).Nodup := by
      intro value
      rw [Table.names_set_of_not_mem value hnew, List.append_assoc]
      exact hnames
    rw [readFields_cons hregistered]
    rw [shownObjects_cons] at hsound ⊢
    cases hshown : c.shown index o row.2 with
    | nothing =>
      rw [hshown] at hsound
      have hrest : (document.names ++ rows.map Prod.fst).Nodup :=
        hnames.sublist (List.Sublist.append_left (List.sublist_cons_self _ _) _)
      exact (ih document begun hrest hsound hdepth).imp fun _ _ h => h.nothing hshown
    | value value =>
      rw [hshown] at hsound
      exact (ih (document.set row.1 value) begun (hset value) hsound hdepth).imp fun _ _ h =>
        h.value hshown hnew
    | portrait object =>
      rw [hshown] at hsound
      refine Outcome.bind (hnest object begun hsound.head hdepth) ?_
      intro nested visited hportrays hwalk
      have hsound' : Walk.Sound c root ⟨c.shownObjects index o rows, begun ++ visited⟩ :=
        hsound.reaches (hwalk _)
      have hdepth' : c.depth ≤ (begun ++ visited).length + depth := by
        rw [List.length_append]
        omega
      have hrest := ih (document.set row.1 (.nested nested)) (begun ++ visited) (hset _) hsound'
        hdepth'
      exact hrest.imp fun _ _ h => h.portrait hshown hnew hportrays

/-- A pass over an object ends with its portrait or where the walk is stuck.  It is never given
too few steps, because with every step down an object was begun. -/
theorem outcome_extractWithin (hregistered : c.Registered index root) (depth : Nat)
    (o : SourceObject) (begun : List SourceObject) (hsound : Walk.Sound c root ⟨[o], begun⟩)
    (hdepth : c.depth ≤ begun.length + depth) :
    Outcome c index (Portrays c index o) [o] begun
      ((c.extractWithin index depth o).result? (.after begun)) := by
  induction depth generalizing o begun with
  | zero =>
    have hlength : begun.length ≤ c.objects.size + 1 := hsound.length_begun_le
    rw [depth] at hdepth
    omega
  | succ depth ih =>
    obtain ⟨content, hcontent, hdistinct⟩ :=
      hregistered.content o (hsound.pending o (List.mem_singleton_self o))
    rw [result?_extractWithin_succ depth hcontent]
    by_cases hmem : o.identity ∈ begun.map (·.identity)
    · rw [if_pos (Observer.mem_visited_after.2 hmem)]
      have hhere : ∀ rest, Walk.Reaches c index ⟨[o] ++ rest, begun⟩ ⟨o :: [] ++ rest, begun⟩ :=
        fun rest => .refl
      exact .stopped hhere hmem
    · rw [if_neg (mt Observer.mem_visited_after.1 hmem), ← Observer.after_append_singleton]
      have hnext : Walk.Sound c root ⟨c.next index o, begun ++ [o]⟩ := by
        have hstep : Walk.Step c index ⟨[o], begun⟩ ⟨c.next index o ++ [], begun ++ [o]⟩ :=
          .enter hmem
        rw [List.append_nil] at hstep
        exact hsound.step hstep
      rw [next_eq hcontent] at hnext
      have hread := outcome_readFields hregistered ih content.fields.rows .empty (begun ++ [o])
        hdistinct hnext (by rw [List.length_append, List.length_singleton]; omega)
      rw [← next_eq hcontent] at hread
      refine (Outcome.enter hmem hread).imp ?_
      rintro document visited ⟨inner, rfl, hcontinues⟩
      exact ⟨content, inner, hcontent, rfl, hcontinues.of_empty⟩

/-- A pass that may go deep enough has the result of the pass that the gateway makes. -/
lemma result?_extractWithin_eq (hregistered : c.Registered index root) {depth : Nat}
    (h : c.depth ≤ depth) :
    (c.extractWithin index depth root).result? .empty =
      some (Pass.result (c.extract index root) .empty) := by
  have houtcome : ∀ depth, c.depth ≤ depth → Outcome c index (Portrays c index root) [root] []
      ((c.extractWithin index depth root).result? .empty) := fun depth hdepth =>
    outcome_extractWithin hregistered depth root [] (Walk.sound_singleton c root) (by simpa)
  rw [some_result_extract]
  exact (houtcome depth h).eq_of_unique (houtcome c.depth (Nat.le_refl _)) Portrays.unique

lemma generateDocument_eq (hregistered : c.Registered index root) :
    c.generateDocument index root = (Pass.result (c.generate index root) .empty).1 := by
  obtain ⟨content, hcontent, -⟩ := hregistered.content root List.mem_cons_self
  rw [generateDocument, Registry.content, hcontent]

/-- What is generated for an object, and the objects that have their documents in it: what the
object answers, or a portrait. -/
def Yields (c : Corpus) (index : String) (root : SourceObject) (result : Option Document)
    (visited : List SourceObject) : Prop :=
  match root.source with
  | .extracted => ∃ document, result = some document ∧ Portrays c index root document visited
  | .own answer => answer index = .ok result ∧ visited = []

lemma outcome_generate (hregistered : c.Registered index root) :
    Outcome c index (c.Yields index root) (Walk.start root).pending []
      (some (Pass.result (c.generate index root) .empty)) := by
  cases hsource : root.source with
  | extracted =>
    have hportrait := outcome_extractWithin hregistered c.depth root []
      (Walk.sound_singleton c root) (by simp)
    rw [Observer.after, List.map_nil, List.reverse_nil, ← Observer.empty,
      ← some_result_extract] at hportrait
    simp only [generate, SourceObject.generate, Walk.start, hsource, Pass.result_map]
    refine (hportrait.map some).imp ?_
    rintro result visited ⟨document, rfl, hportrays⟩
    simpa [Yields, hsource] using hportrays
  | own answer =>
    obtain ⟨document?, hanswer⟩ := hregistered.answer root List.mem_cons_self answer hsource
    have hyields : c.Yields index root document? [] := by simp [Yields, hsource, hanswer]
    simp only [generate, SourceObject.generate, Walk.start, hsource, hanswer]
    exact .done hyields fun rest => .refl

/-- **A document is generated exactly where the walk over the objects repeats nothing.**  Generation
ends, however the objects refer to each other: it has a result at every depth from the one on that
the gateway allows, always the same, and no more objects are begun than there are, each identity
once.  It fails with a circular reference where the walk
comes to an object that was begun before, and names this object; the walk does not go on from there.
Otherwise every object that was begun has one document, all of them inside the document of the
object with which generation began. -/
theorem generation_fails_on_repetition (c : Corpus) (index : String) (root : SourceObject)
    (hregistered : c.Registered index root) :
    (∀ depth, c.depth ≤ depth →
      (c.extractWithin index depth root).result? .empty =
        some (Pass.result (c.extract index root) .empty)) ∧
    (∀ m, Walk.Reaches c index (Walk.start root) m →
      m.identities.Nodup ∧ m.begun.length ≤ c.objects.size + 1) ∧
    (∀ identity, c.generateDocument index root = .error (.circularReference identity) ↔
      ∃ m, Walk.Reaches c index (Walk.start root) m ∧ m.Repeats identity) ∧
    ((¬ ∃ m identity, Walk.Reaches c index (Walk.start root) m ∧ m.Repeats identity) →
      ∃ result visited, c.generateDocument index root = .ok result ∧
        Walk.Reaches c index (Walk.start root) ⟨[], visited⟩ ∧
        c.Yields index root result visited) := by
  have hstart : Walk.start root = ⟨(Walk.start root).pending, []⟩ := by
    rw [Walk.start]
    split <;> rfl
  have houtcome := outcome_generate hregistered
  refine ⟨fun depth hdepth => result?_extractWithin_eq hregistered hdepth, fun m hm => ?_,
    fun identity => ?_, fun hfree => ?_⟩
  · have hsound := (Walk.sound_start c root).reaches hm
    exact ⟨hsound.nodup, hsound.length_begun_le⟩
  · rw [generateDocument_eq hregistered, hstart]
    exact houtcome.eq_error_iff
  · rw [hstart] at hfree
    obtain ⟨result, visited, hresult, hyields, hwalk⟩ := houtcome.exists_of_not_repeats hfree
    rw [generateDocument_eq hregistered, hstart]
    exact ⟨result, visited, hresult, hwalk, hyields⟩

/-- Ann and her friend Ben both refer to Cat.  The document of Ben has that of Cat in it; that of
Ann would have it twice, once inside the other document. -/
theorem generation_fails_on_repetition_of_shared :
    let person : Content := ⟨"Person", "people", ⟨[("name", .property "name" (.ofKind .text)),
      ("friend", .nested "friend" ["Person"]), ("mentor", .nested "mentor" ["Person"])]⟩⟩
    let cat : SourceObject := ⟨"cat", "Person", ⟨[("friend", .text "Dan")]⟩, .empty, .extracted⟩
    let ben : SourceObject := ⟨"ben", "Person", .empty, ⟨[("friend", "cat")]⟩, .extracted⟩
    let ann : SourceObject :=
      ⟨"ann", "Person", .empty, ⟨[("friend", "ben"), ("mentor", "cat")]⟩, .extracted⟩
    let c : Corpus := ⟨Registry.empty.registerContent person, ⟨[("ben", ben), ("cat", cat)]⟩⟩
    c.Registered "people" ann ∧
      c.generateDocument "people" ann = .error (.circularReference "cat") ∧
      ∃ document, c.generateDocument "people" ben = .ok (some document) ∧
        Portrays c "people" ben document [ben, cat] := by
  intro person cat ben ann c
  have hcontent : c.registry.content? "Person" "people" = some person := rfl
  have hregistered : ∀ o, o.typeName = "Person" → o.source = .extracted →
      c.Registered "people" o := by
    intro o ho hsource
    have hall : ∀ object ∈ c.everyone o,
        object.typeName = "Person" ∧ object.source = .extracted := by
      intro object hobject
      rcases List.mem_cons.1 hobject with rfl | hmem
      · exact ⟨ho, hsource⟩
      · have hcases : object = ben ∨ object = cat := by simpa [c, all] using hmem
        rcases hcases with rfl | rfl <;> exact ⟨rfl, rfl⟩
    constructor
    · intro object hobject
      exact ⟨person, by rw [(hall object hobject).1, hcontent], by decide⟩
    · intro object hobject answer hanswer
      cases (hall object hobject).2.symm.trans hanswer
  have henter : ∀ {o : SourceObject} {next rest begun : List SourceObject},
      c.next "people" o = next → o.identity ∉ begun.map (·.identity) →
        Walk.Step c "people" ⟨o :: rest, begun⟩ ⟨next ++ rest, begun ++ [o]⟩ := by
    rintro o next rest begun rfl hnew
    exact .enter hnew
  refine ⟨hregistered ann rfl rfl, ?_, ?_⟩
  · obtain ⟨-, -, herror, -⟩ :=
      generation_fails_on_repetition c "people" ann (hregistered ann rfl rfl)
    have hfirst : Walk.Step c "people" ⟨[ann], []⟩ ⟨[ben, cat], [ann]⟩ := henter rfl (by simp)
    have hsecond : Walk.Step c "people" ⟨[ben, cat], [ann]⟩ ⟨[cat, cat], [ann, ben]⟩ :=
      henter rfl (by simp [ann, ben])
    have hthird : Walk.Step c "people" ⟨[cat, cat], [ann, ben]⟩ ⟨[cat], [ann, ben, cat]⟩ :=
      henter rfl (by simp [ann, ben, cat])
    refine (herror "cat").2 ⟨⟨[cat], [ann, ben, cat]⟩, ?_, cat, [], rfl, rfl, ?_⟩
    · exact .head hfirst (.head hsecond (.single hthird))
    · simp [Moment.identities, cat]
  · obtain ⟨-, -, -, hdone⟩ :=
      generation_fails_on_repetition c "people" ben (hregistered ben rfl rfl)
    have hfirst : Walk.Step c "people" ⟨[ben], []⟩ ⟨[cat], [ben]⟩ := henter rfl (by simp)
    have hsecond : Walk.Step c "people" ⟨[cat], [ben]⟩ ⟨[], [ben, cat]⟩ :=
      henter rfl (by simp [ben, cat])
    have hend : Walk.Reaches c "people" (Walk.start ben) ⟨[], [ben, cat]⟩ :=
      .head hfirst (.single hsecond)
    obtain ⟨result, visited, hresult, hwalk, hyields⟩ := hdone (Walk.not_repeats_of_reaches hend)
    cases Walk.eq_of_reaches hend hwalk (Walk.stuck_of_nil _) (Walk.stuck_of_nil _)
    obtain ⟨document, rfl, hportrays⟩ := hyields
    exact ⟨document, hresult, hportrays⟩

end Corpus

end SearchGateway
