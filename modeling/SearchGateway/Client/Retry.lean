import SearchGateway.Client.Basic
import SearchGateway.RetryPolicy

/-!
# Retrying

An operation that is throttled is tried again after a pause, up to the number of attempts
that the policy allows.  Any other outcome is final, and when the attempts are used up the
last error is the outcome.
-/
namespace SearchGateway

variable {σ : Type} {ε α : Type} [Transient ε]

/-- Tries an operation that has failed `failures` times, with `left` more attempts to be made
after this one. -/
def RetryPolicy.attempt (policy : RetryPolicy) (name : String)
    (operation : Session σ → Except ε α × Session σ) (left failures : Nat) (s : Session σ) :
    Except ε α × Session σ :=
  match operation s with
  | (.ok value, s) => (.ok value, s)
  | (.error error, s) =>
    if Transient.isTransient error then
      match left with
      | 0 => (.error error, s.note (.exhausted name))
      | left + 1 =>
        let s := (s.note (.retried name)).pause (policy.backoff (failures + 1) s.draw)
        policy.attempt name operation left (failures + 1) s
    else (.error error, s)
termination_by structural left

/-- Runs an operation as often as the policy allows. -/
def RetryPolicy.run (policy : RetryPolicy) (name : String)
    (operation : Session σ → Except ε α × Session σ) (s : Session σ) : Except ε α × Session σ :=
  policy.attempt name operation (policy.maxAttempts - 1) 0 s

end SearchGateway
