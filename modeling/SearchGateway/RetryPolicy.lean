/-!
# Retry policies

A policy says how often a throttled operation is tried and how long the pauses between the
attempts are.  The ceiling of a pause doubles with every attempt, as far as thirty-two bits
hold the factor, and never exceeds a maximum; a product that is longer than any delay can be
counts as the maximum.  The pause itself is drawn at random from the upper half of the range
below the ceiling.  All times are in nanoseconds.
-/
namespace SearchGateway

/-- How a throttled operation is tried again. -/
structure RetryPolicy where
  /-- How often an operation is tried at most; it is always tried once. -/
  maxAttempts : Nat
  baseDelay : Nat
  maxDelay : Nat
deriving DecidableEq, Repr, Inhabited

namespace RetryPolicy

/-- The nanoseconds in a millisecond. -/
def nanosPerMilli : Nat := 1_000_000

/-- The policy when nothing else is asked for. -/
def standard : RetryPolicy := ⟨10, 50 * nanosPerMilli, 4000 * nanosPerMilli⟩

/-- What the base delay is multiplied with: a power of two, or the largest number of
thirty-two bits where these do not hold it. -/
def delayFactor (attempt : Nat) : Nat :=
  if attempt < 32 then Nat.pow 2 attempt else Nat.pow 2 32 - 1

/-- The longest delay there is: its whole seconds fill sixty-four bits. -/
def longestDelay : Nat := Nat.pow 2 64 * 1_000_000_000 - 1

/-- A delay several times over, unless that is longer than any delay can be. -/
def timesDelay? (delay factor : Nat) : Option Nat :=
  if delay * factor ≤ longestDelay then some (delay * factor) else none

/-- The length that the pause after an attempt stays below. -/
def delayCeiling (p : RetryPolicy) (attempt : Nat) : Nat :=
  match timesDelay? p.baseDelay (delayFactor attempt) with
  | some delay => min delay p.maxDelay
  | none => p.maxDelay

/-- The longest pause that can be drawn. -/
def longestPause : Nat := Nat.pow 2 64 - 1

/-- The pause after an attempt, for a number that was drawn at random: it is moved into the
upper half of the range below the ceiling.  Where that is empty there is no pause. -/
def backoff (p : RetryPolicy) (attempt drawn : Nat) : Nat :=
  let ceiling := p.delayCeiling attempt
  let floor := ceiling / 2
  if ceiling ≤ floor then ceiling
  else min (floor + drawn % (ceiling - floor)) longestPause

end RetryPolicy
end SearchGateway
