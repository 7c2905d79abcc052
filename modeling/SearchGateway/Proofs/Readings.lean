import Mathlib.Algebra.GroupWithZero.Nat
import Mathlib.Tactic.Lemma
import SearchGateway.Metrics
import SearchGateway.Proofs.Maps

/-!
# What the metrics amount to

The metrics are read off the events one measure after the other.  What a metric amounts to is the
total of a counter, or how often something was recorded or timed.  Every metric is measured in one
way only, which its name tells (`metricName_mem_of_mem_measures`), so a measure adds its amount to
the metric that it names and to no other.  Hence the metrics of some names together amount to what
the events add to them (`totalOver_report`), in whatever order the events came.

The rest of the file says this of the metrics that other files speak about.
-/
namespace SearchGateway

/-- What a metric amounts to: the total of a counter, and otherwise how often it was measured. -/
def Reading.amount : Reading → Nat
  | .counter total => total
  | .histogram values => values.length
  | .samples count => count

/-- What a measure adds to the amount of a metric. -/
def Measure.amount : Measure → Nat
  | .add count => count
  | .record _ => 1
  | .time => 1

namespace Metrics

/-! ## Names and forms -/

/-- The name of a metric without its labels. -/
def metricName (key : String) : String := String.ofList (key.toList.takeWhile (· ≠ '\x7b'))

lemma metricName_key {name : String} (h : '\x7b' ∉ name.toList) (labels : List (String × String)) :
    metricName (key name labels) = name := by
  have hname : ∀ c ∈ name.toList, decide (c ≠ '\x7b') = true := by
    intro c hc
    exact decide_eq_true fun heq => h (heq ▸ hc)
  -- the brace behind the name ends it
  have hbrace (rest : List Char) :
      ("\x7b".toList ++ rest).takeWhile (fun c => decide (c ≠ '\x7b')) = [] := rfl
  rw [metricName, key, String.toList_append, String.toList_append, String.toList_append,
    List.append_assoc, List.append_assoc, List.takeWhile_append_of_pos hname, hbrace,
    List.append_nil, String.ofList_toList]

/-- The names of the metrics that an event adds to. -/
def metricNames : Event → List String
  | .searched _ _ => ["search_bridge_search_queries_total"]
  | .searchTimed _ => ["search_bridge_operation_seconds"]
  | .received _ _ => ["search_bridge_search_results"]
  | .uploaded _ _ _ => ["search_bridge_documents_total"]
  | .leftOut _ _ => ["search_bridge_documents_rejected_total"]
  | .batch _ _ => ["search_bridge_batch_bytes"]
  | .cut _ => ["search_bridge_batch_splits_total", "search_bridge_batch_split_groups"]
  | .defined _ _ _ => ["search_bridge_field_definitions_total"]
  | .retried _ => ["search_bridge_retries_total"]
  | .exhausted _ => ["search_bridge_retries_exhausted_total"]

/-- The ways in which a metric is measured. -/
inductive Form where
  | counter
  | histogram
  | samples
deriving DecidableEq

/-- The way in which the metrics of a name are measured. -/
def formOf (name : String) : Form :=
  if name = "search_bridge_operation_seconds" then .samples
  else if name ∈ ["search_bridge_search_results", "search_bridge_batch_bytes",
    "search_bridge_batch_split_groups"] then .histogram
  else .counter

end Metrics

open Metrics (Form)

def Measure.form : Measure → Form
  | .add _ => .counter
  | .record _ => .histogram
  | .time => .samples

def Reading.form : Reading → Form
  | .counter _ => .counter
  | .histogram _ => .histogram
  | .samples _ => .samples

namespace Metrics

/-- An event adds to the metrics of its names, each of them measured as its name tells. -/
lemma metricName_mem_of_mem_measures {event : Event} {entry : String × Measure}
    (h : entry ∈ measures event) :
    metricName entry.1 ∈ metricNames event ∧ entry.2.form = formOf (metricName entry.1) := by
  cases event <;> simp only [measures, List.mem_cons, List.not_mem_nil, or_false] at h
  case cut groups =>
    rcases h with rfl | rfl
    · rw [metricName_key (by decide)]
      exact ⟨List.mem_cons_self, rfl⟩
    · rw [metricName_key (by decide)]
      exact ⟨List.mem_cons_of_mem _ List.mem_cons_self, rfl⟩
  all_goals
    subst h
    rw [metricName_key (by decide)]
    exact ⟨List.mem_cons_self, rfl⟩

/-! ## One measure -/

section

variable {readings : KeyMap Reading} {wanted : String → Bool} {name : String} {measure : Measure}

lemma length_insertSorted (value : Nat) (values : List Nat) :
    (insertSorted value values).length = values.length + 1 := by
  induction values with
  | nil => rfl
  | cons first rest ih =>
    rw [insertSorted]
    split
    · rfl
    · rw [List.length_cons, ih, List.length_cons]

/-- A measure of the right form adds its amount. -/
lemma amount_after {reading : Option Reading} (h : ∀ r, reading = some r → r.form = measure.form) :
    (Reading.after reading measure).amount =
      (reading.map Reading.amount).getD 0 + measure.amount := by
  rcases reading with _ | reading
  · cases measure <;> simp [Reading.after, Reading.amount, Measure.amount]
  · have hform := h reading rfl
    cases measure <;> cases reading <;>
      simp_all [Reading.after, Reading.amount, Measure.amount, Reading.form, Measure.form,
        length_insertSorted]

lemma form_after (reading : Option Reading) (measure : Measure) :
    (Reading.after reading measure).form = measure.form := by
  unfold Reading.after
  split <;> rfl

/-- What the wanted metrics amount to together. -/
def totalOver (wanted : String → Bool) (readings : KeyMap Reading) : Nat :=
  (readings.entries.map fun entry => if wanted entry.1 then entry.2.amount else 0).sum

/-- What the metrics of a name amount to together, whatever their labels. -/
def totalOf (readings : KeyMap Reading) (name : String) : Nat :=
  totalOver (fun key => metricName key == name) readings

/-- What the metric with a name and labels amounts to; nothing if it was never measured. -/
def amountAt (readings : KeyMap Reading) (name : String) (labels : List (String × String)) : Nat :=
  ((readings.get? (key name labels)).map Reading.amount).getD 0

/-- What is added up over the entries of a map changes by what changes at the key that is set. -/
lemma sum_insertEntry {α : Type} (f : String × α → Nat) {entries : List (String × α)}
    (h : entries.Pairwise fun a b => a.1 < b.1) (key : String) (value : α) :
    ((KeyMap.insertEntry key value entries).map f).sum +
        ((entries.lookup key).map fun old => f (key, old)).getD 0 =
      (entries.map f).sum + f (key, value) := by
  induction entries with
  | nil => simp [KeyMap.insertEntry]
  | cons entry rest ih =>
    obtain ⟨k, v⟩ := entry
    rw [List.pairwise_cons] at h
    have hrest := ih h.2
    rw [lookup_cons_eq_ite, KeyMap.insertEntry]
    by_cases hlt : key < k
    · -- the key would stand in front of the first entry
      have hne : key ≠ k := fun heq => String.lt_irrefl _ (heq ▸ hlt)
      have hnone : rest.lookup key = none := by
        refine lookup_eq_none_of_not_mem fun hmem => ?_
        obtain ⟨other, hother, rfl⟩ := List.mem_map.1 hmem
        exact String.lt_irrefl _ (String.lt_trans hlt (h.1 other hother))
      simp only [if_pos hlt, if_neg hne, hnone, List.map_cons, List.sum_cons, Option.map_none,
        Option.getD_none]
      omega
    · by_cases heq : key = k
      · subst heq
        simp only [if_neg hlt, if_true, List.map_cons, List.sum_cons, Option.map_some,
          Option.getD_some]
        omega
      · simp only [if_neg hlt, if_neg heq, List.map_cons, List.sum_cons]
        omega

/-- The metrics are sorted, and each has the form that its name tells. -/
structure Coherent (readings : KeyMap Reading) : Prop where
  sorted : readings.Sorted
  form : ∀ key reading, readings.get? key = some reading → reading.form = formOf (metricName key)

lemma coherent_empty : Coherent .empty := ⟨KeyMap.sorted_empty, fun _ _ h => nomatch h⟩

/-- The metrics after one more measure. -/
def afterMeasure (readings : KeyMap Reading) (entry : String × Measure) : KeyMap Reading :=
  readings.insert entry.1 (Reading.after (readings.get? entry.1) entry.2)

lemma Coherent.after (h : Coherent readings) {entry : String × Measure}
    (hform : entry.2.form = formOf (metricName entry.1)) :
    Coherent (afterMeasure readings entry) := by
  refine ⟨h.sorted.insert _ _, fun key reading hreading => ?_⟩
  rw [Metrics.afterMeasure, KeyMap.get?_insert] at hreading
  by_cases hkey : key = entry.1
  · rw [if_pos hkey] at hreading
    obtain rfl := Option.some.inj hreading
    rw [form_after, hform, hkey]
  · rw [if_neg hkey] at hreading
    exact h.form key reading hreading

/-- A measure adds its amount to the metric that it names. -/
lemma Coherent.totalOver_after (h : Coherent readings) {entry : String × Measure}
    (hform : entry.2.form = formOf (metricName entry.1)) (wanted : String → Bool) :
    totalOver wanted (afterMeasure readings entry) =
      totalOver wanted readings + if wanted entry.1 then entry.2.amount else 0 := by
  obtain ⟨key, measure⟩ := entry
  have hafter : (Reading.after (readings.get? key) measure).amount =
      ((readings.get? key).map Reading.amount).getD 0 + measure.amount :=
    amount_after fun reading hreading => (h.form key reading hreading).trans hform.symm
  have hsum := sum_insertEntry (fun entry => if wanted entry.1 then entry.2.amount else 0)
    h.sorted key (Reading.after (readings.get? key) measure)
  rw [← KeyMap.get?] at hsum
  show ((KeyMap.insertEntry key _ readings.entries).map _).sum = (readings.entries.map _).sum + _
  cases hwanted : wanted key with
  | false =>
    rcases hget : readings.get? key with _ | old <;>
      simp only [hget, hwanted, Bool.false_eq_true, if_false, Option.map_none, Option.map_some,
        Option.getD_none, Option.getD_some, Nat.add_zero] at hsum ⊢ <;> exact hsum
  | true =>
    rcases hget : readings.get? key with _ | old <;>
      simp only [hget, hwanted, if_true, Option.map_none, Option.map_some, Option.getD_none,
        Option.getD_some] at hafter hsum ⊢ <;> omega

/-- Several measures add up. -/
lemma Coherent.foldl (h : Coherent readings) {entries : List (String × Measure)}
    (hforms : ∀ entry ∈ entries, entry.2.form = formOf (metricName entry.1))
    (wanted : String → Bool) :
    Coherent (entries.foldl afterMeasure readings) ∧
      totalOver wanted (entries.foldl afterMeasure readings) = totalOver wanted readings +
        (entries.map fun entry => if wanted entry.1 then entry.2.amount else 0).sum := by
  induction entries generalizing readings with
  | nil => exact ⟨h, rfl⟩
  | cons entry rest ih =>
    have hform := hforms entry List.mem_cons_self
    obtain ⟨hcoherent, htotal⟩ :=
      ih (h.after hform) fun other hother => hforms other (List.mem_cons_of_mem _ hother)
    refine ⟨hcoherent, ?_⟩
    rw [List.foldl_cons, htotal, h.totalOver_after hform, List.map_cons, List.sum_cons,
      Nat.add_assoc]

end

/-! ## Some events -/

/-- What an event adds to the metrics that are wanted. -/
def weight (wanted : String → Bool) (event : Event) : Nat :=
  ((measures event).map fun entry => if wanted entry.1 then entry.2.amount else 0).sum

/-- What some events add up to, each of them by its own weight. -/
def tally (w : Event → Nat) : List Event → Nat
  | [] => 0
  | event :: rest => tally w rest + w event

variable {w : Event → Nat} {events : List Event}

lemma tally_append (w : Event → Nat) (first second : List Event) :
    tally w (first ++ second) = tally w first + tally w second := by
  induction first with
  | nil => simp [tally]
  | cons event rest ih =>
    simp only [List.cons_append, tally, ih]
    omega

lemma tally_replicate (w : Event → Nat) (count : Nat) (event : Event) :
    tally w (List.replicate count event) = count * w event := by
  induction count with
  | zero => simp [tally]
  | succ count ih => rw [List.replicate_succ, tally, ih, Nat.succ_mul]

lemma tally_congr {w' : Event → Nat} (h : ∀ event, w event = w' event) (events : List Event) :
    tally w events = tally w' events := by
  rw [funext h]

lemma sum_flatMap_measures (wanted : String → Bool) (events : List Event) :
    ((events.flatMap measures).map fun entry => if wanted entry.1 then entry.2.amount else 0).sum =
      tally (weight wanted) events := by
  induction events with
  | nil => rfl
  | cons event rest ih =>
    rw [List.flatMap_cons, List.map_append, List.sum_append_nat, ih, tally, weight, Nat.add_comm]

lemma coherent_report (wanted : String → Bool) (events : List Event) :
    Coherent (report events) ∧
      totalOver wanted (report events) = tally (weight wanted) events := by
  have hforms : ∀ entry ∈ events.flatMap measures,
      entry.2.form = formOf (metricName entry.1) := by
    intro entry hentry
    obtain ⟨event, -, hmem⟩ := List.mem_flatMap.1 hentry
    exact (metricName_mem_of_mem_measures hmem).2
  have hfold := coherent_empty.foldl hforms wanted
  rw [sum_flatMap_measures] at hfold
  exact ⟨hfold.1, hfold.2.trans (Nat.zero_add _)⟩

/-- The wanted metrics amount to what the events add to them. -/
theorem totalOver_report (wanted : String → Bool) (events : List Event) :
    totalOver wanted (report events) = tally (weight wanted) events :=
  (coherent_report wanted events).2

lemma sum_of_key {entries : List (String × Reading)} (hnodup : (entries.map Prod.fst).Nodup)
    (key : String) :
    (entries.map fun entry => if entry.1 == key then entry.2.amount else 0).sum =
      ((entries.lookup key).map Reading.amount).getD 0 := by
  induction entries with
  | nil => rfl
  | cons entry rest ih =>
    obtain ⟨k, reading⟩ := entry
    rw [List.map_cons, List.nodup_cons] at hnodup
    rw [List.map_cons, List.sum_cons, ih hnodup.2, lookup_cons_eq_ite]
    by_cases hkey : key = k
    · -- the key does not come again
      subst hkey
      simp [lookup_eq_none_of_not_mem hnodup.1]
    · simp [hkey, Ne.symm hkey]

/-- A metric amounts to what the events add to it. -/
theorem amountAt_report (events : List Event) (name : String) (labels : List (String × String)) :
    amountAt (report events) name labels = tally (weight (· == key name labels)) events := by
  obtain ⟨hcoherent, htotal⟩ := coherent_report (· == key name labels) events
  rw [← htotal]
  exact (sum_of_key hcoherent.sorted.nodup_keys _).symm

/-! ## The metrics of an endpoint -/

/-- An event adds nothing to metrics of other names. -/
lemma weight_eq_zero {wanted : String → Bool} {event : Event}
    (h : ∀ key, wanted key = true → metricName key ∉ metricNames event) :
    weight wanted event = 0 := by
  refine List.sum_eq_zero_iff_forall_eq_nat.2 fun amount hamount => ?_
  obtain ⟨entry, hentry, rfl⟩ := List.mem_map.1 hamount
  exact if_neg fun hwanted => h entry.1 hwanted (metricName_mem_of_mem_measures hentry).1

/-- The metrics of a name are weighed by the events that have this name. -/
lemma totalOf_eq_tally {name : String} {w : Event → Nat}
    (h : ∀ event, (name ∉ metricNames event ∧ w event = 0) ∨
      weight (fun key => metricName key == name) event = w event) (events : List Event) :
    totalOf (report events) name = tally w events := by
  refine (totalOver_report _ events).trans (tally_congr (fun event => ?_) events)
  rcases h event with ⟨hother, hw⟩ | hsame
  · rw [hw]
    refine weight_eq_zero fun k hk => ?_
    rw [eq_of_beq hk]
    exact hother
  · exact hsame

/-- A metric is weighed by the events that have its name. -/
lemma amountAt_eq_tally {name : String} {w : Event → Nat} {labels : List (String × String)}
    (hname : '\x7b' ∉ name.toList)
    (h : ∀ event, (name ∉ metricNames event ∧ w event = 0) ∨
      weight (· == key name labels) event = w event) (events : List Event) :
    amountAt (report events) name labels = tally w events := by
  refine (amountAt_report events name labels).trans (tally_congr (fun event => ?_) events)
  rcases h event with ⟨hother, hw⟩ | hsame
  · rw [hw]
    refine weight_eq_zero fun k hk => ?_
    rw [eq_of_beq hk, metricName_key hname]
    exact hother
  · exact hsame

/-- The text of the labels of a metric. -/
def labelsText (labels : List (String × String)) : String :=
  ",".intercalate (labels.map fun label => label.1 ++ "=" ++ label.2)

/-- Metrics of one name are told apart by their labels. -/
lemma key_eq_key_iff {name : String} {labels labels' : List (String × String)} :
    key name labels = key name labels' ↔ labelsText labels = labelsText labels' := by
  constructor
  · intro heq
    simpa [key, labelsText, ← String.toList_inj] using heq
  · intro heq
    rw [key, ← labelsText, heq]
    rfl

end Metrics

namespace Event

/-- Searches that ended in a way. -/
def searches (engine : Engine) (status : QueryStatus) : Event → Nat
  | .searched engine' status' => if engine' = engine ∧ status' = status then 1 else 0
  | _ => 0

/-- Searches that were timed. -/
def timings (engine : Engine) : Event → Nat
  | .searchTimed engine' => if engine' = engine then 1 else 0
  | _ => 0

/-- Envelopes of an operation. -/
def envelopes (engine : Engine) (operation : Operation) : Event → Nat
  | .uploaded engine' operation' count =>
    if engine' = engine ∧ operation' = operation then count else 0
  | _ => 0

/-- Batches that were to be uploaded. -/
def batches (engine : Engine) : Event → Nat
  | .batch engine' _ => if engine' = engine then 1 else 0
  | _ => 0

/-- Calls that were tried again. -/
def retries : Event → Nat
  | .retried _ => 1
  | _ => 0

/-- Calls that were given up. -/
def givenUp : Event → Nat
  | .exhausted _ => 1
  | _ => 0

/-- Calls of one operation that were given up. -/
def givenUpOf (operation : String) : Event → Nat
  | .exhausted operation' => if operation' = operation then 1 else 0
  | _ => 0

end Event

namespace Metrics

open Event

section

variable (engine : Engine) (events : List Event)

lemma amountAt_searches (status : QueryStatus) :
    amountAt (report events) "search_bridge_search_queries_total"
        [("backend", engine.name), ("status", status.name)] =
      tally (searches engine status) events := by
  refine amountAt_eq_tally (by decide) (fun event => ?_) events
  cases event
  case searched engine' status' =>
    have hlabels : labelsText [("backend", engine'.name), ("status", status'.name)] =
        labelsText [("backend", engine.name), ("status", status.name)] ↔
          engine' = engine ∧ status' = status := by
      cases engine' <;> cases engine <;> cases status' <;> cases status <;> decide
    right
    simp [weight, measures, key_eq_key_iff, hlabels, searches, Measure.amount]
  all_goals exact .inl ⟨by simp [metricNames], rfl⟩

lemma amountAt_timings :
    amountAt (report events) "search_bridge_operation_seconds"
        [("backend", engine.name), ("operation", "search")] =
      tally (timings engine) events := by
  refine amountAt_eq_tally (by decide) (fun event => ?_) events
  cases event
  case searchTimed engine' =>
    have hlabels : labelsText [("backend", engine'.name), ("operation", "search")] =
        labelsText [("backend", engine.name), ("operation", "search")] ↔ engine' = engine := by
      cases engine' <;> cases engine <;> decide
    right
    simp [weight, measures, key_eq_key_iff, hlabels, timings, Measure.amount]
  all_goals exact .inl ⟨by simp [metricNames], rfl⟩

lemma amountAt_envelopes (operation : Operation) :
    amountAt (report events) "search_bridge_documents_total"
        [("backend", engine.name), ("operation", operation.name)] =
      tally (envelopes engine operation) events := by
  refine amountAt_eq_tally (by decide) (fun event => ?_) events
  cases event
  case uploaded engine' operation' count =>
    have hlabels : labelsText [("backend", engine'.name), ("operation", operation'.name)] =
        labelsText [("backend", engine.name), ("operation", operation.name)] ↔
          engine' = engine ∧ operation' = operation := by
      cases engine' <;> cases engine <;> cases operation' <;> cases operation <;> decide
    right
    simp [weight, measures, key_eq_key_iff, hlabels, envelopes, Measure.amount]
  all_goals exact .inl ⟨by simp [metricNames], rfl⟩

lemma amountAt_batches :
    amountAt (report events) "search_bridge_batch_bytes" [("backend", engine.name)] =
      tally (batches engine) events := by
  refine amountAt_eq_tally (by decide) (fun event => ?_) events
  cases event
  case batch engine' bytes =>
    have hlabels : labelsText [("backend", engine'.name)] = labelsText [("backend", engine.name)] ↔
        engine' = engine := by
      cases engine' <;> cases engine <;> decide
    right
    simp [weight, measures, key_eq_key_iff, hlabels, batches, Measure.amount]
  all_goals exact .inl ⟨by simp [metricNames], rfl⟩

lemma amountAt_givenUp (operation : String) :
    amountAt (report events) "search_bridge_retries_exhausted_total" [("operation", operation)] =
      tally (givenUpOf operation) events := by
  refine amountAt_eq_tally (by decide) (fun event => ?_) events
  cases event
  case exhausted operation' =>
    have hlabels : labelsText [("operation", operation')] = labelsText [("operation", operation)] ↔
        operation' = operation := by
      simp [labelsText, ← String.toList_inj]
    right
    simp [weight, measures, key_eq_key_iff, hlabels, givenUpOf, Measure.amount]
  all_goals exact .inl ⟨by simp [metricNames], rfl⟩

lemma totalOf_retries :
    totalOf (report events) "search_bridge_retries_total" = tally retries events := by
  refine totalOf_eq_tally (fun event => ?_) events
  cases event
  case retried operation =>
    right
    simp [weight, measures, metricName_key, retries, Measure.amount]
  all_goals exact .inl ⟨by simp [metricNames], rfl⟩

lemma totalOf_givenUp :
    totalOf (report events) "search_bridge_retries_exhausted_total" = tally givenUp events := by
  refine totalOf_eq_tally (fun event => ?_) events
  cases event
  case exhausted operation =>
    right
    simp [weight, measures, metricName_key, givenUp, Measure.amount]
  all_goals exact .inl ⟨by simp [metricNames], rfl⟩

end

end Metrics
end SearchGateway
