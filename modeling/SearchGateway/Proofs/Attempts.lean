import Mathlib.Data.List.Range
import Mathlib.Tactic.Lemma
import SearchGateway.Client.Retry

/-!
# Attempts

A run tries an operation until it has an outcome that lasts, which is success or an error that is
not transient, or until the attempts are used up.  An operation may do whatever it likes with its
session, so the outcomes are not known beforehand; but the session in which it is tried the next
time is known from the one before it (`RetryPolicy.sessionAfter`): a retry is noted down and one
pause is made.  A run is the operation in the first of these sessions in which its outcome lasts
(`run_of_lasting`), or in the last of them that the policy allows (`run_of_passing`).

The main statement, `RetryPolicy.run_follows_outcomes`, is about operations whose outcomes are a
given infinite sequence.  To say what happens between two calls, such an operation writes down at
every call which pauses have been made so far.
-/
namespace SearchGateway

variable {σ : Type} {ε α : Type} [Transient ε]

/-- Whether an outcome is an error that may pass by itself. -/
def isPassing : Except ε α → Bool
  | .ok _ => false
  | .error error => Transient.isTransient error

lemma exists_error_of_isPassing {outcome : Except ε α} (h : isPassing outcome = true) :
    ∃ error, outcome = .error error ∧ Transient.isTransient error = true := by
  cases outcome with
  | ok value => exact nomatch h
  | error error => exact ⟨error, rfl, h⟩

lemma ClientError.isTransient_iff (error : ClientError) :
    Transient.isTransient error = true ↔ ∃ reason, error = .throttled reason := by
  cases error <;> simp [Transient.isTransient, ClientError.isTransient]

lemma SearchError.isTransient_iff (error : SearchError) :
    Transient.isTransient error = true ↔ ∃ reason, error = .client (.throttled reason) := by
  cases error with
  | client error =>
    show Transient.isTransient error = true ↔ _
    simp [ClientError.isTransient_iff]
  | _ => simp [Transient.isTransient, SearchError.isTransient]

namespace RetryPolicy

variable {policy : RetryPolicy} {name : String} {operation : Session σ → Except ε α × Session σ}
  {left failures : Nat} {s t : Session σ} {error : ε} {value : α}

/-! ## One attempt -/

lemma attempt_of_ok (h : operation s = (.ok value, t)) :
    policy.attempt name operation left failures s = (.ok value, t) := by
  unfold attempt
  rw [h]

lemma attempt_zero_of_transient (h : operation s = (.error error, t))
    (htransient : Transient.isTransient error = true) :
    policy.attempt name operation 0 failures s = (.error error, t.note (.exhausted name)) := by
  unfold attempt
  rw [h]
  exact if_pos htransient

lemma attempt_succ_of_transient (h : operation s = (.error error, t))
    (htransient : Transient.isTransient error = true) :
    policy.attempt name operation (left + 1) failures s =
      policy.attempt name operation left (failures + 1)
        ((t.note (.retried name)).pause
          (policy.backoff (failures + 1) (t.note (.retried name)).draw)) := by
  conv => lhs; unfold attempt
  rw [h]
  exact if_pos htransient

/-- Where trying succeeds, this attempt succeeds, or it fails for a while and a later one
succeeds. -/
lemma exists_of_attempt_eq_ok
    (h : policy.attempt name operation left failures s = (.ok value, t)) :
    operation s = (.ok value, t) ∨
      ∃ (error : ε) (s₁ s₂ : Session σ) (fewer : Nat), left = fewer + 1 ∧
        operation s = (.error error, s₁) ∧ Transient.isTransient error = true ∧
        policy.attempt name operation fewer (failures + 1) s₂ = (.ok value, t) ∧
        s₂.client = s₁.client := by
  rcases hoperation : operation s with ⟨error | result, s₁⟩
  · by_cases htransient : Transient.isTransient error = true
    · cases left with
      | zero =>
        rw [attempt_zero_of_transient hoperation htransient] at h
        exact nomatch h
      | succ fewer =>
        rw [attempt_succ_of_transient hoperation htransient] at h
        exact .inr ⟨error, s₁, _, fewer, rfl, rfl, htransient, h, rfl⟩
    · unfold attempt at h
      rw [hoperation] at h
      dsimp only at h
      rw [if_neg htransient] at h
      exact nomatch h
  · rw [attempt_of_ok hoperation] at h
    exact .inl h

/-- What happens between two attempts, the first of which is the given one. -/
def between (policy : RetryPolicy) (name : String) (attempt : Nat) (s : Session σ) : Session σ :=
  (s.note (.retried name)).pause (policy.backoff attempt s.draw)

lemma attempt_of_lasting (h : isPassing (operation s).1 = false) :
    policy.attempt name operation left failures s = operation s := by
  unfold attempt
  rcases hoperation : operation s with ⟨error | value, t⟩
  · rw [hoperation] at h
    exact if_neg (ne_true_of_eq_false h)
  · rfl

lemma attempt_zero_of_passing (h : isPassing (operation s).1 = true) :
    policy.attempt name operation 0 failures s =
      ((operation s).1, (operation s).2.note (.exhausted name)) := by
  obtain ⟨error, herror, htransient⟩ := exists_error_of_isPassing h
  rw [attempt_zero_of_transient (Prod.ext herror rfl) htransient, herror]

lemma attempt_succ_of_passing (h : isPassing (operation s).1 = true) :
    policy.attempt name operation (left + 1) failures s =
      policy.attempt name operation left (failures + 1)
        (policy.between name (failures + 1) (operation s).2) := by
  obtain ⟨error, herror, htransient⟩ := exists_error_of_isPassing h
  exact attempt_succ_of_transient (Prod.ext herror rfl) htransient

/-! ## A run -/

/-- The session in which an operation is tried the next time, after so many failures. -/
def sessionAfter (policy : RetryPolicy) (name : String)
    (operation : Session σ → Except ε α × Session σ) (s : Session σ) : Nat → Session σ
  | 0 => s
  | failures + 1 =>
    policy.between name (failures + 1) (operation (sessionAfter policy name operation s failures)).2

/-- The outcome of an operation after so many failures. -/
def outcomeAfter (policy : RetryPolicy) (name : String)
    (operation : Session σ → Except ε α × Session σ) (s : Session σ) (failures : Nat) :
    Except ε α :=
  (operation (policy.sessionAfter name operation s failures)).1

/-- Trying an operation from the start is trying it after some failures, as long as it fails. -/
lemma attempt_add
    (h : ∀ i < failures, isPassing (policy.outcomeAfter name operation s i) = true) :
    policy.attempt name operation (left + failures) 0 s =
      policy.attempt name operation left failures
        (policy.sessionAfter name operation s failures) := by
  -- by the failures: the last of them turns one more attempt that is left into one more failure
  induction failures generalizing left with
  | zero => rfl
  | succ failures ih =>
    have hearlier : ∀ i < failures, isPassing (policy.outcomeAfter name operation s i) = true :=
      fun i hi => h i (Nat.lt_succ_of_lt hi)
    have hlast := h failures (Nat.lt_succ_self failures)
    calc policy.attempt name operation (left + (failures + 1)) 0 s
      _ = policy.attempt name operation (left + 1 + failures) 0 s := by
        rw [Nat.add_assoc, Nat.add_comm 1]
      _ = policy.attempt name operation (left + 1) failures
            (policy.sessionAfter name operation s failures) := ih hearlier
      _ = _ := attempt_succ_of_passing hlast

/-- A run ends with the first outcome that lasts. -/
theorem run_of_lasting (hlt : failures < max 1 policy.maxAttempts)
    (h : ∀ i < failures, isPassing (policy.outcomeAfter name operation s i) = true)
    (hlasting : isPassing (policy.outcomeAfter name operation s failures) = false) :
    policy.run name operation s =
      operation (policy.sessionAfter name operation s failures) := by
  have hsum : policy.maxAttempts - 1 = policy.maxAttempts - 1 - failures + failures := by omega
  rw [run, hsum, attempt_add h]
  exact attempt_of_lasting hlasting

/-- A run in which no outcome lasts ends with the last attempt. -/
theorem run_of_passing (hlast : failures + 1 = max 1 policy.maxAttempts)
    (h : ∀ i ≤ failures, isPassing (policy.outcomeAfter name operation s i) = true) :
    policy.run name operation s =
      (policy.outcomeAfter name operation s failures,
        (operation (policy.sessionAfter name operation s failures)).2.note (.exhausted name)) := by
  have hsum : policy.maxAttempts - 1 = 0 + failures := by omega
  rw [run, hsum, attempt_add fun i hi => h i (Nat.le_of_lt hi)]
  exact attempt_zero_of_passing (h failures (Nat.le_refl failures))

/-! ## Given outcomes -/

/-- What an operation has written down: for each of its calls the pauses that had been made before
it, the latest first. -/
abbrev CallLog := List (List Nat)

/-- The operation with the given outcomes: the call with a number has the outcome with this
number, whatever happened before. -/
def replay (outcomes : Nat → Except ε α) (s : Session CallLog) :
    Except ε α × Session CallLog :=
  (outcomes (s.client.length + 1), { s with client := s.client ++ [s.pauses] })

/-- The first outcome that lasts is the one with this number. -/
structure FirstLasting (outcomes : Nat → Except ε α) (call : Nat) : Prop where
  pos : 0 < call
  lasting : isPassing (outcomes call) = false
  earlier : ∀ i, 0 < i → i < call → isPassing (outcomes i) = true

/-- The pauses that have been made after so many failures, the latest first: one for each failure,
drawn for its number. -/
def pausesAfter (policy : RetryPolicy) (s : Session σ) : Nat → List Nat
  | 0 => s.pauses
  | failures + 1 =>
    policy.backoff (failures + 1) (s.draws (s.pauses.length + failures)) ::
      pausesAfter policy s failures

/-- An operation was called so often, with one pause more at each call than at the one before it
and none after the last one, and this was noted down. -/
structure Called (policy : RetryPolicy) (past : Session CallLog) (calls : Nat)
    (notes : List Event) (s : Session CallLog) : Prop where
  client : s.client = (List.range calls).map (policy.pausesAfter past)
  pauses : s.pauses = policy.pausesAfter past (calls - 1)
  events : s.events = notes ++ past.events

variable {outcomes : Nat → Except ε α} {past : Session CallLog}

lemma length_pausesAfter (policy : RetryPolicy) (s : Session σ) (failures : Nat) :
    (policy.pausesAfter s failures).length = s.pauses.length + failures := by
  induction failures with
  | zero => rfl
  | succ failures ih => rw [pausesAfter, List.length_cons, ih, Nat.add_assoc]

omit [Transient ε] in
/-- The session after so many failures of an operation with given outcomes. -/
lemma sessionAfter_replay (policy : RetryPolicy) (name : String) (outcomes : Nat → Except ε α)
    (past : Session CallLog) (failures : Nat) :
    policy.sessionAfter name (replay outcomes) { past with client := [] } failures =
      { client := (List.range failures).map (policy.pausesAfter past)
        events := List.replicate failures (.retried name) ++ past.events
        pauses := policy.pausesAfter past failures
        draws := past.draws } := by
  induction failures with
  | zero => rfl
  | succ failures ih =>
    rw [sessionAfter, ih, List.range_succ, List.map_append, List.map_singleton, pausesAfter,
      ← policy.length_pausesAfter past]
    rfl

omit [Transient ε] in
lemma outcomeAfter_replay (policy : RetryPolicy) (name : String) (outcomes : Nat → Except ε α)
    (past : Session CallLog) (failures : Nat) :
    policy.outcomeAfter name (replay outcomes) { past with client := [] } failures =
      outcomes (failures + 1) := by
  rw [outcomeAfter, sessionAfter_replay, replay, List.length_map, List.length_range]

omit [Transient ε] in
/-- One call more after some failures. -/
lemma called_replay (failures : Nat) :
    Called policy past (failures + 1) (List.replicate failures (.retried name))
      (replay outcomes (policy.sessionAfter name (replay outcomes) { past with client := [] }
        failures)).2 := by
  rw [sessionAfter_replay]
  refine ⟨?_, rfl, rfl⟩
  rw [List.range_succ, List.map_append]
  rfl

lemma Called.note {calls : Nat} {notes : List Event} {s : Session CallLog}
    (h : Called policy past calls notes s) (event : Event) :
    Called policy past calls (event :: notes) (s.note event) :=
  ⟨h.client, h.pauses, congrArg (event :: ·) h.events⟩

/-- If the first outcome that lasts comes late, the outcomes before pass. -/
lemma isPassing_of_firstLasting {most : Nat}
    (h : ∀ call, FirstLasting outcomes call → most < call) {i : Nat} (hpos : 0 < i)
    (hle : i ≤ most) : isPassing (outcomes i) = true := by
  induction i using Nat.strongRecOn with
  | ind i ih =>
    by_contra hlasting
    have hfirst : FirstLasting outcomes i :=
      ⟨hpos, eq_false_of_ne_true hlasting, fun j hj hlt => ih j hlt hj (by omega)⟩
    exact Nat.not_lt_of_le hle (h i hfirst)

/-- **A run follows the outcomes.**  An operation is called until its first outcome that lasts, and
this is the outcome of the run; each call but the last was noted down as a retry.  If none of the
outcomes that the policy allows for lasts, the operation is called that often, the run ends with
the error of the last call, and this is noted down too.  Between two calls there is one pause, a
back-off for the number of the former.  Only throttling is transient, also where it is an error of
the gateway. -/
theorem run_follows_outcomes (policy : RetryPolicy) (name : String)
    (outcomes : Nat → Except ε α) (past : Session CallLog) :
    let x := policy.run name (replay outcomes) { past with client := [] }
    let most := max 1 policy.maxAttempts
    (∀ call, FirstLasting outcomes call → call ≤ most →
      x.1 = outcomes call ∧
        Called policy past call (List.replicate (call - 1) (.retried name)) x.2) ∧
    ((∀ call, FirstLasting outcomes call → most < call) →
      (∃ error, outcomes most = .error error ∧ x.1 = .error error) ∧
        Called policy past most
          (.exhausted name :: List.replicate (most - 1) (.retried name)) x.2) ∧
    (∀ error : ClientError,
      Transient.isTransient error = true ↔ ∃ reason, error = .throttled reason) ∧
    ∀ error : SearchError,
      Transient.isTransient error = true ↔ ∃ reason, error = .client (.throttled reason) := by
  intro x most
  refine ⟨fun call hfirst hle => ?_, fun hlate => ?_, ClientError.isTransient_iff,
    SearchError.isTransient_iff⟩
  · obtain ⟨failures, rfl⟩ := Nat.exists_eq_add_one.2 hfirst.pos
    have hrun : x = replay outcomes
        (policy.sessionAfter name (replay outcomes) { past with client := [] } failures) := by
      refine run_of_lasting hle (fun i hi => ?_) ?_
      · rw [outcomeAfter_replay]
        exact hfirst.earlier (i + 1) (Nat.succ_pos i) (Nat.succ_lt_succ hi)
      · rw [outcomeAfter_replay]
        exact hfirst.lasting
    rw [hrun]
    exact ⟨outcomeAfter_replay policy name outcomes past failures, called_replay failures⟩
  · obtain ⟨failures, hlast⟩ : ∃ failures, failures + 1 = most := ⟨most - 1, by omega⟩
    have hpassing {i : Nat} (hi : i ≤ failures) : isPassing (outcomes (i + 1)) = true :=
      isPassing_of_firstLasting hlate (Nat.succ_pos i) (by omega)
    have hrun : x = (outcomes (failures + 1), (replay outcomes
        (policy.sessionAfter name (replay outcomes) { past with client := [] }
          failures)).2.note (.exhausted name)) := by
      rw [← outcomeAfter_replay policy name outcomes past failures]
      refine run_of_passing hlast fun i hi => ?_
      rw [outcomeAfter_replay]
      exact hpassing hi
    obtain ⟨error, herror, -⟩ := exists_error_of_isPassing (hpassing (Nat.le_refl failures))
    rw [hrun, ← hlast]
    exact ⟨⟨error, herror, herror⟩, (called_replay failures).note _⟩

end RetryPolicy
end SearchGateway
