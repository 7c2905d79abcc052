import Mathlib.Algebra.Group.Nat.Defs
import Mathlib.Data.List.Induction
import Mathlib.Tactic.Lemma
import SearchGateway.Proofs.Assembly

/-!
# What a builder was asked for

A query that is built has one clause at most for every kind of clause, and the steps that were
taken decide each of them apart from the others.  For the clauses that are overwritten the last of
their steps counts (`clauseOf?_applyAll`), and the clauses that add up have the arguments of all
their steps in order (`select_applyAll`, `order_applyAll`).

So a query is determined by the steps of each kind (`build_eq_of_filter_eq`), steps of different
kinds can be taken in either order (`apply_comm`), and a query that is built between two steps
depends on the steps before it only, since building leaves the builder as it is
(`built_append_build`).
-/
namespace SearchGateway.QueryBuilder

/-! ## Steps -/

/-- The clause that a step asks for when there is no other step of its kind. -/
def Step.clause : Step → Clause
  | .matching criterion => .matching criterion
  | .filter criterion => .filter criterion
  | .select attrs => .select attrs
  | .order attr direction => .order [⟨direction, attr⟩]
  | .limit count => .limit (countLiteral count)
  | .offset count => .offset (countLiteral count)
  | .scrollCursor cursor => .scrollCursor (.text cursor)

/-- The kind of the clause that a step is about. -/
def Step.kind (step : Step) : PartKind := step.clause.kind

/-- The attributes that a step adds to those that are shown. -/
def Step.selected : Step → List Attribute
  | .select attrs => attrs
  | _ => []

/-- What a step adds to the order of the hits. -/
def Step.sortKeys : Step → List SortKey
  | .order attr direction => [⟨direction, attr⟩]
  | _ => []

lemma Step.selected_of_kind_ne {step : Step} (h : step.kind ≠ .select) : step.selected = [] := by
  cases step with
  | select attrs => exact absurd rfl h
  | _ => rfl

lemma Step.sortKeys_eq_nil_iff {step : Step} : step.sortKeys = [] ↔ step.kind ≠ .order := by
  cases step <;> simp [sortKeys, kind, clause, Clause.kind]

variable {b : QueryBuilder} {step step' : Step} {steps steps' : List Step} {kind : PartKind}

/-! ## The clauses of a builder -/

/-- The clause of a kind, if it was asked for. -/
def clauseOf? (b : QueryBuilder) : PartKind → Option Clause
  | .matching => b.matching.map .matching
  | .select => if b.select = [] then none else some (.select b.select)
  | .order => if b.order = [] then none else some (.order b.order)
  | .limit => b.limit.map fun count => .limit (countLiteral count)
  | .offset => b.offset.map fun count => .offset (countLiteral count)
  | .filter => b.filter.map .filter
  | .scrollCursor => b.scrollCursor.map fun cursor => .scrollCursor (.text cursor)
  | _ => none

lemma kind_of_clauseOf?_eq_some {clause : Clause} (h : b.clauseOf? kind = some clause) :
    clause.kind = kind := by
  cases kind with
  | matching | limit | offset | filter | scrollCursor =>
    obtain ⟨argument, -, rfl⟩ := Option.map_eq_some_iff.1 h
    rfl
  | select | order =>
    rw [clauseOf?] at h
    split at h
    · exact nomatch h
    · obtain rfl := Option.some.inj h
      rfl
  | _ => exact nomatch h

lemma clauseOf?_of_not_mem_kinds (h : kind ∉ kinds) : b.clauseOf? kind = none := by
  cases kind with
  | matching | select | order | limit | offset | filter | scrollCursor =>
    exact absurd h (by decide)
  | _ => rfl

lemma filterMap_cons_eq_append {α β : Type} (f : α → Option β) (a : α) (rest : List α) :
    (a :: rest).filterMap f = (f a).toList ++ rest.filterMap f := by
  rw [List.filterMap_cons]
  cases f a <;> rfl

lemma clauses_eq_filterMap (b : QueryBuilder) : b.clauses = kinds.filterMap b.clauseOf? := by
  have hselect : (if b.select.isEmpty then [] else [Clause.select b.select]) =
      (b.clauseOf? .select).toList := by
    rw [clauseOf?]
    cases b.select <;> rfl
  have horder : (if b.order.isEmpty then [] else [Clause.order b.order]) =
      (b.clauseOf? .order).toList := by
    rw [clauseOf?]
    cases b.order <;> rfl
  rw [clauses, hselect, horder]
  simp only [kinds, filterMap_cons_eq_append, List.filterMap_nil, List.append_nil,
    List.append_assoc]
  rfl

/-- A clause is found among clauses of different kinds by its kind. -/
lemma find?_filterMap_clauseOf? (b : QueryBuilder) {among : List PartKind} (hnodup : among.Nodup)
    (kind : PartKind) :
    (among.filterMap b.clauseOf?).find? (fun clause => clause.kind == kind) =
      if kind ∈ among then b.clauseOf? kind else none := by
  induction among with
  | nil => rfl
  | cons first rest ih =>
    obtain ⟨hfirst, hrest⟩ := List.nodup_cons.1 hnodup
    rw [List.filterMap_cons]
    cases hclause : b.clauseOf? first with
    | none =>
      simp only [ih hrest, List.mem_cons]
      by_cases hkind : kind = first
      · subst hkind
        rw [if_neg hfirst, if_pos (.inl rfl), hclause]
      · simp [hkind]
    | some clause =>
      have hfound : clause.kind = first := kind_of_clauseOf?_eq_some hclause
      simp only [List.find?_cons, hfound, List.mem_cons]
      by_cases hkind : first = kind
      · subst hkind
        simp [hclause]
      · have hbeq : (first == kind) = false := by simpa using hkind
        simp [hbeq, ih hrest, Ne.symm hkind]

lemma clause?_build (b : QueryBuilder) (index : SearchIndex) (kind : PartKind) :
    (b.build index).clause? kind = b.clauseOf? kind := by
  have hnodup : kinds.Nodup := by decide
  have hfind := b.find?_filterMap_clauseOf? hnodup kind
  rw [Query.clause?, build, Query.ofClauses, clauses_eq_filterMap, hfind]
  split
  next => rfl
  next hkind => exact (clauseOf?_of_not_mem_kinds hkind).symm

lemma map_kind_filterMap_sublist (b : QueryBuilder) (among : List PartKind) :
    ((among.filterMap b.clauseOf?).map Clause.kind).Sublist among := by
  induction among with
  | nil => exact List.Sublist.slnil
  | cons first rest ih =>
    rw [List.filterMap_cons]
    cases hclause : b.clauseOf? first with
    | none => exact ih.cons first
    | some clause =>
      have hfound : clause.kind = first := kind_of_clauseOf?_eq_some hclause
      rw [List.map_cons, hfound]
      exact ih.cons_cons first

/-! ## Runs of steps -/

/-- A step decides the clause of its kind and no other; shown attributes and sort keys add up
instead. -/
lemma clauseOf?_apply (hselect : kind ≠ .select) (horder : kind ≠ .order) (b : QueryBuilder)
    (step : Step) :
    (b.apply step).clauseOf? kind =
      if step.kind = kind then some step.clause else b.clauseOf? kind := by
  cases kind with
  | select => exact absurd rfl hselect
  | order => exact absurd rfl horder
  | _ => cases step <;> rfl

lemma select_apply (b : QueryBuilder) (step : Step) :
    (b.apply step).select = b.select ++ step.selected := by
  cases step <;> simp [apply, Step.selected]

lemma order_apply (b : QueryBuilder) (step : Step) :
    (b.apply step).order = b.order ++ step.sortKeys := by
  cases step <;> simp [apply, Step.sortKeys]

lemma applyAll_append_singleton (b : QueryBuilder) (steps : List Step) (step : Step) :
    b.applyAll (steps ++ [step]) = (b.applyAll steps).apply step := by
  rw [applyAll, List.foldl_append]
  rfl

/-- Of the steps of a kind the last one counts. -/
theorem clauseOf?_applyAll (hselect : kind ≠ .select) (horder : kind ≠ .order) (b : QueryBuilder)
    (steps : List Step) :
    (b.applyAll steps).clauseOf? kind =
      ((steps.filter fun step => step.kind = kind).getLast?.map Step.clause).or
        (b.clauseOf? kind) := by
  induction steps using List.reverseRecOn with
  | nil => rfl
  | append_singleton steps step ih =>
    rw [applyAll_append_singleton, clauseOf?_apply hselect horder, ih, List.filter_append]
    by_cases hkind : step.kind = kind
    · simp [hkind]
    · simp [hkind]

theorem select_applyAll (b : QueryBuilder) (steps : List Step) :
    (b.applyAll steps).select = b.select ++ steps.flatMap Step.selected := by
  induction steps using List.reverseRecOn with
  | nil => exact (List.append_nil _).symm
  | append_singleton steps step ih =>
    rw [applyAll_append_singleton, select_apply, ih, List.flatMap_append, List.flatMap_singleton,
      List.append_assoc]

theorem order_applyAll (b : QueryBuilder) (steps : List Step) :
    (b.applyAll steps).order = b.order ++ steps.flatMap Step.sortKeys := by
  induction steps using List.reverseRecOn with
  | nil => exact (List.append_nil _).symm
  | append_singleton steps step ih =>
    rw [applyAll_append_singleton, order_apply, ih, List.flatMap_append, List.flatMap_singleton,
      List.append_assoc]

/-! ## Queries that follow steps -/

/-- A query has the clauses that some steps ask for: one clause of each kind at most, and these in
a fixed order. -/
structure Follows (steps : List Step) (q : Query) : Prop where
  kinds : (q.clauses.map Clause.kind).Sublist kinds
  clauses : q.clauses = QueryBuilder.kinds.filterMap q.clause?
  last : ∀ kind ≠ .select, kind ≠ .order →
    q.clause? kind = (steps.filter fun step => step.kind = kind).getLast?.map Step.clause
  select : q.clause? .select = if steps.flatMap Step.selected = [] then none
    else some (.select (steps.flatMap Step.selected))
  order : q.clause? .order = if steps.flatMap Step.sortKeys = [] then none
    else some (.order (steps.flatMap Step.sortKeys))
  /-- A clause is missing if there was no step for it.  Only shown attributes are missing as well
  when there were steps that named none. -/
  absent : ∀ kind ≠ .select, (q.clause? kind = none ↔ ∀ step ∈ steps, step.kind ≠ kind)

theorem follows_build (steps : List Step) (index : SearchIndex) :
    Follows steps ((empty.applyAll steps).build index) := by
  have hclause := clause?_build (empty.applyAll steps) index
  have hlast : ∀ kind ≠ .select, kind ≠ .order →
      ((empty.applyAll steps).build index).clause? kind =
        (steps.filter fun step => step.kind = kind).getLast?.map Step.clause := by
    intro kind hselect horder
    have hnone : empty.clauseOf? kind = none := by cases kind <;> rfl
    rw [hclause, clauseOf?_applyAll hselect horder, hnone, Option.or_none]
  have hselect : (empty.applyAll steps).select = steps.flatMap Step.selected :=
    (select_applyAll empty steps).trans (List.nil_append _)
  have horder : (empty.applyAll steps).order = steps.flatMap Step.sortKeys :=
    (order_applyAll empty steps).trans (List.nil_append _)
  constructor
  case kinds =>
    have hsublist := map_kind_filterMap_sublist (empty.applyAll steps) QueryBuilder.kinds
    rwa [← clauses_eq_filterMap] at hsublist
  case clauses =>
    have hclauses := clauses_eq_filterMap (empty.applyAll steps)
    rwa [← funext hclause] at hclauses
  case last => exact hlast
  case select => rw [hclause, clauseOf?, hselect]
  case order => rw [hclause, clauseOf?, horder]
  case absent =>
    intro kind hkind
    by_cases hsort : kind = .order
    · subst hsort
      rw [hclause, clauseOf?, horder]
      simp [List.flatMap_eq_nil_iff, Step.sortKeys_eq_nil_iff]
    · rw [hlast kind hkind hsort, Option.map_eq_none_iff, List.getLast?_eq_none_iff,
        List.filter_eq_nil_iff]
      simp

/-! ## The order of the steps -/

/-- Steps of different kinds can be taken in either order. -/
theorem apply_comm (h : step.kind ≠ step'.kind) (b : QueryBuilder) :
    (b.apply step).apply step' = (b.apply step').apply step := by
  cases step <;> cases step' <;> first | rfl | exact absurd rfl h

lemma flatMap_filter_kind {α : Type} {arguments : Step → List α}
    (h : ∀ step, step.kind ≠ kind → arguments step = []) (steps : List Step) :
    (steps.filter fun step => step.kind = kind).flatMap arguments = steps.flatMap arguments := by
  induction steps with
  | nil => rfl
  | cons step rest ih =>
    rw [List.filter_cons]
    split
    next => rw [List.flatMap_cons, List.flatMap_cons, ih]
    next hkind =>
      have hnone : arguments step = [] := h step (by simpa using hkind)
      rw [List.flatMap_cons, hnone, List.nil_append, ih]

/-- Only the order of steps of the same kind matters. -/
theorem build_eq_of_filter_eq
    (h : ∀ kind, (steps.filter fun step => step.kind = kind) =
      steps'.filter fun step => step.kind = kind) (b : QueryBuilder) (index : SearchIndex) :
    (b.applyAll steps).build index = (b.applyAll steps').build index := by
  have hadded {α : Type} {arguments : Step → List α} {kind : PartKind}
      (harguments : ∀ step, step.kind ≠ kind → arguments step = []) :
      steps.flatMap arguments = steps'.flatMap arguments := by
    rw [← flatMap_filter_kind harguments, h kind, flatMap_filter_kind harguments]
  have hclause : (b.applyAll steps).clauseOf? = (b.applyAll steps').clauseOf? := by
    funext kind
    by_cases hselect : kind = .select
    · subst hselect
      rw [clauseOf?, clauseOf?, select_applyAll, select_applyAll,
        hadded fun step => Step.selected_of_kind_ne]
    · by_cases horder : kind = .order
      · subst horder
        rw [clauseOf?, clauseOf?, order_applyAll, order_applyAll,
          hadded fun step => Step.sortKeys_eq_nil_iff.2]
      · rw [clauseOf?_applyAll hselect horder, clauseOf?_applyAll hselect horder, h]
  rw [build, build, clauses_eq_filterMap, clauses_eq_filterMap, hclause]

/-! ## Building in between -/

/-- What a caller does with a builder: it takes a step, or it has the query built. -/
inductive Use where
  | step (step : Step)
  | build
deriving Inhabited

/-- The steps among some uses. -/
def stepsOf (uses : List Use) : List Step :=
  uses.filterMap fun
    | .step step => some step
    | .build => none

/-- The queries that are built in the course of some uses. -/
def built (index : SearchIndex) (b : QueryBuilder) : List Use → List Query
  | [] => []
  | .step step :: rest => built index (b.apply step) rest
  | .build :: rest => b.build index :: built index b rest

/-- A query that is built depends on the steps before it only, and later queries do not depend on
its having been built. -/
theorem built_append_build (index : SearchIndex) (b : QueryBuilder) (before after : List Use) :
    built index b (before ++ .build :: after) =
      built index b before ++ (b.applyAll (stepsOf before)).build index ::
        built index (b.applyAll (stepsOf before)) after := by
  induction before generalizing b with
  | nil => rfl
  | cons first rest ih =>
    cases first with
    | step step =>
      rw [List.cons_append, built, built, ih]
      rfl
    | build =>
      rw [List.cons_append, built, built, ih]
      rfl

/-! ## Counts -/

/-- A limit or an offset that a builder gives has a form in either language. -/
lemma exists_forms_of_count {clause : Clause} {index : SearchIndex}
    (hclause : clause ∈ (b.build index).clauses)
    (hkind : clause.kind = .limit ∨ clause.kind = .offset) :
    (∀ (parser : CloudSearch.Parser) (schema : Schema),
      ∃ text, CloudSearch.clauseText parser schema clause = .ok text) ∧
    ∀ (keepAlive : String) (schema : Schema),
      ∃ f, Elasticsearch.fragment keepAlive schema clause = .ok f := by
  rw [build, Query.ofClauses, clauses_eq_filterMap] at hclause
  obtain ⟨kind, -, hgiven⟩ := List.mem_filterMap.1 hclause
  obtain rfl : clause.kind = kind := kind_of_clauseOf?_eq_some hgiven
  rcases hkind with hkind | hkind
  · rw [hkind] at hgiven
    obtain ⟨count, -, rfl⟩ := Option.map_eq_some_iff.1 hgiven
    exact ⟨fun _ _ => ⟨_, rfl⟩, fun _ _ => ⟨_, rfl⟩⟩
  · rw [hkind] at hgiven
    obtain ⟨count, -, rfl⟩ := Option.map_eq_some_iff.1 hgiven
    exact ⟨fun _ _ => ⟨_, rfl⟩, fun _ _ => ⟨_, rfl⟩⟩

/-! ## The main statement -/

/-- **Building, clause by clause.**  The clauses of a query that is built are the ones that the
steps ask for (`Follows`).  So steps about different clauses can be taken in either order, only the
order of steps about the same clause matters, and every query that is built between the steps is
the one of the steps before it.  The counts of a limit and an offset are the ones that were asked
for, up to the largest count that there is, and both clauses have a form in either language. -/
theorem built_query_follows_steps :
    (∀ steps index, Follows steps ((empty.applyAll steps).build index)) ∧
    (∀ (b : QueryBuilder) (step step' : Step), step.kind ≠ step'.kind →
      (b.apply step).apply step' = (b.apply step').apply step) ∧
    (∀ (steps steps' : List Step) (index : SearchIndex),
      (∀ kind, (steps.filter fun step => step.kind = kind) =
        steps'.filter fun step => step.kind = kind) →
      (empty.applyAll steps).build index = (empty.applyAll steps').build index) ∧
    (∀ (index : SearchIndex) (before after : List Use),
      built index empty (before ++ .build :: after) =
        built index empty before ++ (empty.applyAll (stepsOf before)).build index ::
          built index (empty.applyAll (stepsOf before)) after) ∧
    (∀ steps index, ∀ clause ∈ ((empty.applyAll steps).build index).clauses,
      clause.kind = .limit ∨ clause.kind = .offset →
      (∀ (parser : CloudSearch.Parser) (schema : Schema),
        ∃ text, CloudSearch.clauseText parser schema clause = .ok text) ∧
      ∀ (keepAlive : String) (schema : Schema),
        ∃ f, Elasticsearch.fragment keepAlive schema clause = .ok f) ∧
    (∀ n : Nat,
      Step.clause (.limit n) = .limit (.integer (min n (2 ^ 63 - 1) : Nat)) ∧
      Step.clause (.offset n) = .offset (.integer (min n (2 ^ 63 - 1) : Nat)) ∧
      FieldValue.count? (.integer (min n (2 ^ 63 - 1) : Nat)) = some (min n (2 ^ 63 - 1)) ∧
      (∀ (parser : CloudSearch.Parser) (schema : Schema) (r : CloudSearch.Request),
        r.add parser schema (Step.clause (.limit n)) =
          .ok { r with size := some (min n (2 ^ 63 - 1)) } ∧
        r.add parser schema (Step.clause (.offset n)) =
          .ok { r with start := some (min n (2 ^ 63 - 1)) }) ∧
      ∀ (keepAlive : String) (schema : Schema),
        Elasticsearch.fragment keepAlive schema (Step.clause (.limit n)) =
          .ok (Elasticsearch.single "size" (.nat (min n (2 ^ 63 - 1)))) ∧
        Elasticsearch.fragment keepAlive schema (Step.clause (.offset n)) =
          .ok (Elasticsearch.single "from" (.nat (min n (2 ^ 63 - 1))))) := by
  refine ⟨follows_build, fun b _ _ h => apply_comm h b,
    fun _ _ index h => build_eq_of_filter_eq h empty index,
    fun index before after => built_append_build index empty before after,
    fun _ _ _ hclause hkind => exists_forms_of_count hclause hkind, fun n => ?_⟩
  exact ⟨rfl, rfl, rfl, fun parser schema r => ⟨rfl, rfl⟩, fun keepAlive schema => ⟨rfl, rfl⟩⟩

/-- Limits and sort keys are asked for in turn, or first all sort keys and then all limits: the
query is the same, sorted by both keys and with the later limit. -/
theorem built_query_follows_steps_in_turn :
    let index : SearchIndex := ⟨"books", .elasticsearch, .empty⟩
    let title : Step := .order ⟨"title"⟩ .ascending
    let year : Step := .order ⟨"year"⟩ .descending
    let inTurn : List Step := [.limit 10, title, .limit 20, year]
    let sorted : List Step := [title, year, .limit 10, .limit 20]
    (∀ kind, (inTurn.filter fun step => step.kind = kind) =
      sorted.filter fun step => step.kind = kind) ∧
    (empty.applyAll inTurn).build index = (empty.applyAll sorted).build index ∧
    Step.kind (.limit 20) ≠ year.kind ∧
    (empty.apply (.limit 20)).apply year = (empty.apply year).apply (.limit 20) ∧
    ((empty.applyAll inTurn).build index).clauses =
      [.order [⟨.ascending, ⟨"title"⟩⟩, ⟨.descending, ⟨"year"⟩⟩], .limit (.integer 20)] := by
  intro index title year inTurn sorted
  have hfilter : ∀ kind, (inTurn.filter fun step => step.kind = kind) =
      sorted.filter fun step => step.kind = kind := by
    intro kind
    cases kind <;> rfl
  have hkind : Step.kind (.limit 20) ≠ year.kind := by decide
  obtain ⟨-, hcomm, hsame, -⟩ := built_query_follows_steps
  exact ⟨hfilter, hsame inTurn sorted index hfilter, hkind, hcomm empty _ _ hkind, rfl⟩

end SearchGateway.QueryBuilder
