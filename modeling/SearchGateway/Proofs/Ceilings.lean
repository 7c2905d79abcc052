import Mathlib.Algebra.Group.Nat.Defs
import Mathlib.Tactic.Lemma
import SearchGateway.RetryPolicy

/-!
# Ceilings of pauses

The ceiling of the pause after an attempt is meant to be the base delay, doubled once for every
attempt, or the maximum where that is less.  Thirty-two bits hold the power of two up to the
attempt 31.  From there on the factor stays at the largest number of thirty-two bits, one less than
the power that comes next.  So the ceiling has its intended length exactly when the factor is still
the power itself or when it does not matter: without a base delay, and where already the largest
factor leads to the maximum (`RetryPolicy.delayCeiling_doubles_iff`).

A product that is longer than any delay does no harm, because no maximum is longer.
-/
namespace SearchGateway.RetryPolicy

variable {p : RetryPolicy} {attempt : Nat}

/-! ## The factor -/

lemma delayFactor_of_lt (h : attempt < 32) : delayFactor attempt = 2 ^ attempt := if_pos h

lemma delayFactor_of_le (h : 32 ≤ attempt) : delayFactor attempt = 2 ^ 32 - 1 :=
  if_neg (Nat.not_lt_of_le h)

/-- The largest factor falls short of every power of two that thirty-two bits do not hold. -/
lemma delayFactor_lt_two_pow (h : 32 ≤ attempt) : delayFactor attempt < 2 ^ attempt := by
  have hpow : 2 ^ 32 ≤ 2 ^ attempt := Nat.pow_le_pow_right Nat.two_pos h
  rw [delayFactor_of_le h]
  omega

lemma delayFactor_eq (attempt : Nat) : delayFactor attempt = min (2 ^ attempt) (2 ^ 32 - 1) := by
  rcases Nat.lt_or_ge attempt 32 with hlt | hge
  · have hpow : 2 ^ attempt ≤ 2 ^ 31 := Nat.pow_le_pow_right Nat.two_pos (Nat.le_of_lt_succ hlt)
    rw [delayFactor_of_lt hlt]
    omega
  · have hlt := delayFactor_lt_two_pow hge
    rw [delayFactor_of_le hge] at hlt ⊢
    omega

/-! ## The ceiling -/

/-- What the multiplication does where it overflows is what the maximum does anyway. -/
lemma delayCeiling_eq (hmax : p.maxDelay ≤ longestDelay) (attempt : Nat) :
    p.delayCeiling attempt = min p.maxDelay (p.baseDelay * delayFactor attempt) := by
  by_cases hfits : p.baseDelay * delayFactor attempt ≤ longestDelay
  · rw [delayCeiling, timesDelay?, if_pos hfits]
    exact Nat.min_comm _ _
  · rw [delayCeiling, timesDelay?, if_neg hfits]
    have hle : p.maxDelay ≤ p.baseDelay * delayFactor attempt := by omega
    exact (Nat.min_eq_left hle).symm

/-- Two factors give the same product up to a maximum only where both reach the maximum. -/
lemma min_mul_eq_min_mul_iff {base max factor more : Nat} (hbase : base ≠ 0)
    (hlt : factor < more) :
    min max (base * factor) = min max (base * more) ↔ max ≤ base * factor := by
  have hmul : base * factor < base * more :=
    Nat.mul_lt_mul_of_pos_left hlt (Nat.pos_of_ne_zero hbase)
  omega

/-- **Where ceilings double.**  The ceiling of the pause after an attempt is the base delay times
the power of two or times the largest number of thirty-two bits, whichever is less, and never more
than the maximum.  It is the doubled base delay up to the maximum exactly for the attempts before
32, without a base delay, and where the largest factor reaches the maximum. -/
theorem delayCeiling_doubles_iff (hmax : p.maxDelay ≤ longestDelay) (attempt : Nat) :
    p.delayCeiling attempt = min p.maxDelay (p.baseDelay * min (2 ^ attempt) (2 ^ 32 - 1)) ∧
      (p.delayCeiling attempt = min p.maxDelay (p.baseDelay * 2 ^ attempt) ↔
        attempt < 32 ∨ p.baseDelay = 0 ∨ p.maxDelay ≤ p.baseDelay * (2 ^ 32 - 1)) := by
  refine ⟨by rw [delayCeiling_eq hmax, delayFactor_eq], ?_⟩
  rw [delayCeiling_eq hmax]
  rcases Nat.lt_or_ge attempt 32 with hlt | hge
  · rw [delayFactor_of_lt hlt]
    exact iff_of_true rfl (.inl hlt)
  · have hnot : ¬ attempt < 32 := Nat.not_lt_of_le hge
    by_cases hbase : p.baseDelay = 0
    · rw [hbase, Nat.zero_mul, Nat.zero_mul]
      exact iff_of_true rfl (.inr (.inl rfl))
    · rw [min_mul_eq_min_mul_iff hbase (delayFactor_lt_two_pow hge), delayFactor_of_le hge]
      simp [hnot, hbase]

/-- The base delay is almost as long as a delay can be, so that every product with a factor from two
on is longer than that, and the maximum is the longest delay. -/
theorem delayCeiling_doubles_of_overflow :
    let p : RetryPolicy := ⟨3, longestDelay - 1, longestDelay⟩
    p.maxDelay ≤ longestDelay ∧
      p.delayCeiling 40 = min p.maxDelay (p.baseDelay * 2 ^ 40) ∧
      p.delayCeiling 0 = longestDelay - 1 := by
  intro p
  have hmax : p.maxDelay ≤ longestDelay := Nat.le_refl _
  have hreached : p.maxDelay ≤ p.baseDelay * (2 ^ 32 - 1) := by decide
  refine ⟨hmax, (delayCeiling_doubles_iff hmax 40).2.2 (.inr (.inr hreached)), ?_⟩
  rw [(delayCeiling_doubles_iff hmax 0).1]
  decide

/-- From a nanosecond the ceiling would double to more than eight seconds by the attempt 33, but it
stays below 4.3 seconds although the maximum is ten. -/
theorem delayCeiling_not_doubled :
    let p : RetryPolicy := ⟨40, 1, 10_000_000_000⟩
    p.delayCeiling 33 = 4_294_967_295 ∧ min p.maxDelay (p.baseDelay * 2 ^ 33) = 8_589_934_592 := by
  decide

end SearchGateway.RetryPolicy
