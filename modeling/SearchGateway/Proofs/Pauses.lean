import Mathlib.Algebra.GroupWithZero.Nat
import Mathlib.Algebra.Order.BigOperators.Group.List
import Mathlib.Algebra.Order.Group.Nat
import Mathlib.Data.Nat.Find
import SearchGateway.Proofs.Attempts
import SearchGateway.Proofs.Ceilings

/-!
# Lengths of pauses

A pause is drawn from the upper half of the range below its ceiling.  The range is empty only
where the ceiling is zero, and there no pause is drawn at all.  Where the maximum fits into the
number of nanoseconds that a drawn pause can have, nothing is cut off: the pauses after an attempt
are exactly those in the upper half (`RetryPolicy.exists_backoff_eq_iff`).

A run makes at most one pause for each attempt but the last, so the pauses of a run are together
no longer than that many times the maximum (`RetryPolicy.pauses_stay_below_ceilings`).
-/
namespace SearchGateway

variable {σ : Type} {ε α : Type} [Transient ε]

namespace RetryPolicy

variable {policy : RetryPolicy} {attempt later : Nat}

/-! ## Ceilings -/

/-- No ceiling is above the maximum, even if the multiplication overflows. -/
lemma delayCeiling_le (policy : RetryPolicy) (attempt : Nat) :
    policy.delayCeiling attempt ≤ policy.maxDelay := by
  rw [delayCeiling]
  split
  · exact Nat.min_le_right _ _
  · exact Nat.le_refl _

lemma delayFactor_mono (h : attempt ≤ later) : delayFactor attempt ≤ delayFactor later := by
  have hpow : 2 ^ attempt ≤ 2 ^ later := Nat.pow_le_pow_right Nat.two_pos h
  rw [delayFactor_eq, delayFactor_eq]
  omega

/-- Ceilings never decrease. -/
lemma delayCeiling_mono (hmax : policy.maxDelay ≤ longestDelay) (h : attempt ≤ later) :
    policy.delayCeiling attempt ≤ policy.delayCeiling later := by
  have hproduct : policy.baseDelay * delayFactor attempt ≤ policy.baseDelay * delayFactor later :=
    Nat.mul_le_mul_left _ (delayFactor_mono h)
  rw [delayCeiling_eq hmax, delayCeiling_eq hmax]
  omega

/-! ## One pause -/

/-- A pause lies below the ceiling, but not below the half of it. -/
def InUpperHalf (ceiling pause : Nat) : Prop := ceiling / 2 ≤ pause ∧ pause < ceiling

/-- Whatever number is drawn, it is moved into the upper half. -/
lemma inUpperHalf_add_mod {ceiling : Nat} (hpos : 0 < ceiling) (drawn : Nat) :
    InUpperHalf ceiling (ceiling / 2 + drawn % (ceiling - ceiling / 2)) := by
  have hdrawn := Nat.mod_lt drawn (show 0 < ceiling - ceiling / 2 by omega)
  exact ⟨Nat.le_add_right _ _, by omega⟩

/-- There is something to draw from exactly where the ceiling is not zero. -/
lemma exists_inUpperHalf_iff {ceiling : Nat} :
    (∃ pause, InUpperHalf ceiling pause) ↔ 0 < ceiling := by
  constructor
  · rintro ⟨pause, -, hlt⟩
    exact Nat.zero_lt_of_lt hlt
  · exact fun hpos => ⟨_, inUpperHalf_add_mod hpos 0⟩

lemma backoff_of_eq_zero (h : policy.delayCeiling attempt = 0) (drawn : Nat) :
    policy.backoff attempt drawn = 0 := by
  simp [backoff, h]

/-- Where the maximum is short enough, a drawn pause is taken as it is. -/
lemma backoff_of_pos (hmax : policy.maxDelay ≤ longestPause)
    (hpos : 0 < policy.delayCeiling attempt) (drawn : Nat) :
    policy.backoff attempt drawn = policy.delayCeiling attempt / 2 +
      drawn % (policy.delayCeiling attempt - policy.delayCeiling attempt / 2) := by
  have hmoved := inUpperHalf_add_mod hpos drawn
  rw [backoff, if_neg (by omega)]
  exact Nat.min_eq_left (hmoved.2.le.trans ((policy.delayCeiling_le attempt).trans hmax))

/-- **The pauses that can be drawn** after an attempt are those in the upper half of the range
below the ceiling, all of them and no others. -/
lemma exists_backoff_eq_iff (hmax : policy.maxDelay ≤ longestPause)
    (hpos : 0 < policy.delayCeiling attempt) (pause : Nat) :
    (∃ drawn, policy.backoff attempt drawn = pause) ↔
      InUpperHalf (policy.delayCeiling attempt) pause := by
  constructor
  · rintro ⟨drawn, rfl⟩
    rw [backoff_of_pos hmax hpos]
    exact inUpperHalf_add_mod hpos drawn
  · rintro ⟨hhalf, hlt⟩
    -- the number that is drawn may be how far the pause is above the half
    refine ⟨pause - policy.delayCeiling attempt / 2, ?_⟩
    rw [backoff_of_pos hmax hpos, Nat.mod_eq_of_lt (by omega)]
    omega

/-- No pause is longer than the maximum, whatever the maximum is. -/
lemma backoff_le (policy : RetryPolicy) (attempt drawn : Nat) :
    policy.backoff attempt drawn ≤ policy.maxDelay := by
  have hceiling := policy.delayCeiling_le attempt
  rw [backoff]
  split
  · exact hceiling
  · have hmoved := inUpperHalf_add_mod (show 0 < policy.delayCeiling attempt by omega) drawn
    exact (Nat.min_le_left _ _).trans (hmoved.2.le.trans hceiling)

/-! ## The pauses of a run -/

variable {name : String} {s : Session σ}

/-- A run ends with some attempt, and after it no pause is made. -/
lemma exists_pauses_run (policy : RetryPolicy) (name : String)
    (operation : Session σ → Except ε α × Session σ) (s : Session σ) :
    ∃ failures < max 1 policy.maxAttempts, (policy.run name operation s).2.pauses =
      (operation (policy.sessionAfter name operation s failures)).2.pauses := by
  by_cases hlasts : ∃ i < max 1 policy.maxAttempts,
      isPassing (policy.outcomeAfter name operation s i) = false
  · -- the run ends with the first outcome that lasts
    obtain ⟨hlt, hlasting⟩ := Nat.find_spec hlasts
    have hearlier : ∀ i < Nat.find hlasts,
        isPassing (policy.outcomeAfter name operation s i) = true := by
      intro i hi
      have hnot := Nat.find_min hlasts hi
      by_contra hfalse
      exact hnot ⟨hi.trans hlt, eq_false_of_ne_true hfalse⟩
    exact ⟨Nat.find hlasts, hlt, by rw [run_of_lasting hlt hearlier hlasting]⟩
  · have hpassing : ∀ i ≤ max 1 policy.maxAttempts - 1,
        isPassing (policy.outcomeAfter name operation s i) = true := by
      intro i hi
      by_contra hfalse
      exact hlasts ⟨i, by omega, eq_false_of_ne_true hfalse⟩
    refine ⟨max 1 policy.maxAttempts - 1, by omega, ?_⟩
    rw [run_of_passing (by omega) hpassing]
    rfl

omit [Transient ε] in
/-- A call of the client makes no pauses of its own, so after some failures there is one for each
of them. -/
lemma sessionAfter_call (policy : RetryPolicy) (name : String) (operation : σ → Except ε α × σ)
    (s : Session σ) (failures : Nat) :
    (policy.sessionAfter name (·.call operation) s failures).pauses =
        policy.pausesAfter s failures ∧
      (policy.sessionAfter name (·.call operation) s failures).draws = s.draws := by
  induction failures with
  | zero => exact ⟨rfl, rfl⟩
  | succ failures ih =>
    obtain ⟨hpauses, hdraws⟩ := ih
    refine ⟨?_, hdraws⟩
    rw [pausesAfter, ← policy.length_pausesAfter s, ← hpauses, ← hdraws]
    rfl

/-- After some failures there are as many pauses more, and each of them is a back-off. -/
lemma exists_pausesAfter_eq (policy : RetryPolicy) (s : Session σ) (failures : Nat) :
    ∃ made, policy.pausesAfter s failures = made ++ s.pauses ∧ made.length = failures ∧
      ∀ pause ∈ made, ∃ attempt drawn, pause = policy.backoff attempt drawn := by
  induction failures with
  | zero => exact ⟨[], rfl, rfl, by simp⟩
  | succ failures ih =>
    obtain ⟨made, hmade, hlength, hbackoffs⟩ := ih
    refine ⟨_ :: made, congrArg _ hmade, congrArg _ hlength, ?_⟩
    exact List.forall_mem_cons.2 ⟨⟨_, _, rfl⟩, hbackoffs⟩

/-- **Pauses stay below their ceilings.**  If the maximum has fewer than sixty-four bits, no ceiling
is above it and ceilings never decrease.  There is a range to draw from where the ceiling is not
zero, and then the pauses that can be drawn are those in its upper half; otherwise there is no
pause.  So the pauses that a run makes, one at most for each attempt but the last, are together no
longer than the maximum for each of them. -/
theorem pauses_stay_below_ceilings (policy : RetryPolicy) (hmax : policy.maxDelay < 2 ^ 64)
    (name : String) (operation : σ → Except ε α × σ) (s : Session σ) :
    (∀ attempt,
      let ceiling := policy.delayCeiling attempt
      ceiling ≤ policy.maxDelay ∧
      (∀ later, attempt ≤ later → ceiling ≤ policy.delayCeiling later) ∧
      ((∃ pause, InUpperHalf ceiling pause) ↔ 0 < ceiling) ∧
      (0 < ceiling → ∀ pause, (∃ drawn, policy.backoff attempt drawn = pause) ↔
        InUpperHalf ceiling pause) ∧
      (ceiling = 0 → ∀ drawn, policy.backoff attempt drawn = 0)) ∧
    ∃ made, (policy.run name (·.call operation) s).2.pauses = made ++ s.pauses ∧
      made.length ≤ max 1 policy.maxAttempts - 1 ∧
      (∀ pause ∈ made, ∃ attempt drawn, pause = policy.backoff attempt drawn) ∧
      made.sum ≤ (max 1 policy.maxAttempts - 1) * policy.maxDelay := by
  have hpause : policy.maxDelay ≤ longestPause := Nat.le_sub_one_of_lt hmax
  have hdelay : policy.maxDelay ≤ longestDelay := hpause.trans (by decide)
  refine ⟨fun attempt => ⟨policy.delayCeiling_le attempt, fun later => delayCeiling_mono hdelay,
    exists_inUpperHalf_iff, exists_backoff_eq_iff hpause, backoff_of_eq_zero⟩, ?_⟩
  obtain ⟨failures, hlt, hrun⟩ := exists_pauses_run policy name (·.call operation) s
  obtain ⟨made, hmade, hlength, hbackoffs⟩ := policy.exists_pausesAfter_eq s failures
  have hle : made.length ≤ max 1 policy.maxAttempts - 1 := by omega
  refine ⟨made, ?_, hle, hbackoffs, ?_⟩
  · rw [hrun, ← hmade]
    exact (sessionAfter_call policy name operation s failures).1
  · have hshort : ∀ pause ∈ made, pause ≤ policy.maxDelay := by
      intro pause hmem
      obtain ⟨attempt, drawn, rfl⟩ := hbackoffs pause hmem
      exact policy.backoff_le attempt drawn
    calc made.sum
      _ ≤ made.length • policy.maxDelay := List.sum_le_card_nsmul made _ hshort
      _ ≤ (max 1 policy.maxAttempts - 1) * policy.maxDelay := Nat.mul_le_mul_right _ hle

/-- The longest maximum there can be, which the ceiling of the attempt 70 does not reach, and three
throttled attempts from a base delay of one nanosecond: the pauses between them are drawn from
`[1, 2)` and `[2, 4)`. -/
theorem pauses_stay_below_ceilings_of_nanosecond :
    let policy : RetryPolicy := ⟨3, 1, 2 ^ 64 - 1⟩
    let throttled : Unit → Except ClientError Unit × Unit := fun c => (.error (.throttled ""), c)
    let x := policy.run "upload" (·.call throttled) (.ofClient () fun count => count + 6)
    policy.maxDelay < 2 ^ 64 ∧ policy.delayCeiling 70 = 2 ^ 32 - 1 ∧
      ((∃ drawn, policy.backoff 70 drawn = 2 ^ 32 - 2) ∧
        ¬ ∃ drawn, policy.backoff 70 drawn = 2 ^ 32 - 1) ∧
      x.2.pauses = [3, 1] ∧ x.2.pauses.sum ≤ 2 * (2 ^ 64 - 1) := by
  intro policy throttled x
  have hmax : policy.maxDelay < 2 ^ 64 := by decide
  have hceiling : policy.delayCeiling 70 = 2 ^ 32 - 1 := by decide
  obtain ⟨hpauses, made, hmade, -, -, hsum⟩ := pauses_stay_below_ceilings policy hmax "upload"
    throttled (.ofClient () fun count => count + 6)
  obtain ⟨-, -, -, hdrawn, -⟩ := hpauses 70
  have hpos : 0 < policy.delayCeiling 70 := by rw [hceiling]; decide
  refine ⟨hmax, hceiling, ⟨(hdrawn hpos _).2 ?_, fun h => ?_⟩, by decide, ?_⟩
  · rw [hceiling]
    exact ⟨by decide, by decide⟩
  · have hlt := ((hdrawn hpos _).1 h).2
    rw [hceiling] at hlt
    exact Nat.lt_irrefl _ hlt
  · rw [show x.2.pauses = made ++ [] from hmade, List.append_nil]
    exact hsum

end RetryPolicy
end SearchGateway
