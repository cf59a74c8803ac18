import AgqlAuth.Service.RateLimit

/-!
# The backoff in closed form

The loop of `backoff_duration` doubles a saturating multiplier and stops at the
first product that overflows or reaches the cap.  In exact arithmetic it is the
capped exponential, and the multiplier it doubles is a power of two below the
point of saturation.
-/

namespace AgqlAuth

/-- The delay without the cap, in nanoseconds, with the exponent held at 30. -/
def exponentialNanos (policy : AuthRateLimitPolicy) (attempts : Nat) : Int :=
  policy.baseBackoff.nanos * 2 ^ min (attempts - policy.backoffAfterAttempts) 30

/-- The multipliers that `backoffFrom` doubles before it returns. -/
def doubledMultipliers (policy : AuthRateLimitPolicy) : Nat → Int → List Int
  | 0, _ => []
  | remaining + 1, multiplier =>
      multiplier ::
        match policy.baseBackoff.checkedMul (saturatingDouble multiplier) with
        | none => []
        | some candidate =>
            if policy.maxBackoff ≤ candidate then []
            else doubledMultipliers policy remaining (saturatingDouble multiplier)

theorem saturatingDouble_eq {multiplier : Int} (nonneg : 0 ≤ multiplier)
    (small : multiplier ≤ 2 ^ 29) : saturatingDouble multiplier = multiplier * 2 := by
  simp only [saturatingDouble]
  omega

/-- The only doublings of the loop: from a power of two to the next, at most `2 ^ 30`. -/
theorem saturatingDouble_pow {k : Nat} (below : k < 30) :
    saturatingDouble (2 ^ k) = 2 ^ (k + 1) := by
  have small : (2 : Int) ^ k ≤ 2 ^ 29 := pow_le_pow_right₀ (by decide) (by omega)
  rw [saturatingDouble_eq (pow_nonneg (by decide) k) small, pow_succ]

namespace Duration

theorem checkedMul_eq_some {d product : Duration} {k : Int}
    (multiplied : d.checkedMul k = some product) : product.nanos = d.nanos * k := by
  unfold checkedMul at multiplied
  split at multiplied
  · cases multiplied
    rfl
  · cases multiplied

/-- A product of nonnegative factors is only refused above the longest duration. -/
theorem lt_of_checkedMul_eq_none {d : Duration} {k : Int} (d_nonneg : 0 ≤ d.nanos)
    (k_nonneg : 0 ≤ k) (refused : d.checkedMul k = none) : maxDurationNanos < d.nanos * k := by
  have product_nonneg : 0 ≤ d.nanos * k := mul_nonneg d_nonneg k_nonneg
  unfold checkedMul at refused
  split at refused
  · cases refused
  · rename_i unfit
    simp only [minDurationNanos, maxDurationNanos, nanosPerSecond] at unfit ⊢
    omega

theorem nanos_min (a b : Duration) : (min a b).nanos = min a.nanos b.nanos := by
  rcases le_total a b with below | above
  · rw [min_eq_left below, min_eq_left (le_iff.mp below)]
  · rw [min_eq_right above, min_eq_right (le_iff.mp above)]

end Duration

section Loop

variable {policy : AuthRateLimitPolicy} (base_nonneg : 0 ≤ policy.baseBackoff.nanos)
include base_nonneg

/-- Past the cap at one exponent, the capped exponential is the cap from there on. -/
theorem capped_of_le {k : Nat} (r : Nat)
    (past : policy.maxBackoff.nanos ≤ policy.baseBackoff.nanos * 2 ^ k) :
    policy.maxBackoff.nanos =
      min policy.maxBackoff.nanos (policy.baseBackoff.nanos * 2 ^ (k + r)) := by
  have grows : policy.baseBackoff.nanos * 2 ^ k ≤ policy.baseBackoff.nanos * 2 ^ (k + r) :=
    mul_le_mul_of_nonneg_left (pow_le_pow_right₀ (by decide) (Nat.le_add_right k r)) base_nonneg
  exact (min_eq_left (past.trans grows)).symm

theorem cap_le_of_refused {k : Nat} (refused : policy.baseBackoff.checkedMul (2 ^ k) = none) :
    policy.maxBackoff.nanos ≤ policy.baseBackoff.nanos * 2 ^ k :=
  policy.maxBackoff.upper.trans
    (Duration.lt_of_checkedMul_eq_none base_nonneg (pow_nonneg (by decide) k) refused).le

/--
The loop invariant: entered with `2 ^ k` and `r` rounds to go, the loop returns
the capped exponential at `k + r`, whether it stops early or not.
-/
theorem backoffFrom_nanos (r : Nat) : ∀ k, k + r ≤ 30 →
    (backoffFrom policy r (2 ^ k)).nanos =
      min policy.maxBackoff.nanos (policy.baseBackoff.nanos * 2 ^ (k + r)) := by
  induction r with
  | zero =>
      intro k _
      rw [backoffFrom, Duration.nanos_min]
      cases multiplied : policy.baseBackoff.checkedMul (2 ^ k) with
      | none =>
          rw [Option.getD_none, min_self]
          exact capped_of_le base_nonneg 0 (cap_le_of_refused base_nonneg multiplied)
      | some product =>
          rw [Option.getD_some, Duration.checkedMul_eq_some multiplied, min_comm, Nat.add_zero]
  | succ r ih =>
      intro k bound
      have shift : k + (r + 1) = k + 1 + r := by omega
      rw [backoffFrom, saturatingDouble_pow (by omega), shift]
      cases multiplied : policy.baseBackoff.checkedMul (2 ^ (k + 1)) with
      | none => exact capped_of_le base_nonneg r (cap_le_of_refused base_nonneg multiplied)
      | some candidate =>
          have exact_product := Duration.checkedMul_eq_some multiplied
          by_cases reached : policy.maxBackoff ≤ candidate
          · have past : policy.maxBackoff.nanos ≤ policy.baseBackoff.nanos * 2 ^ (k + 1) := by
              rw [← exact_product]
              exact Duration.le_iff.mp reached
            simp only [if_pos reached]
            exact capped_of_le base_nonneg r past
          · simp only [if_neg reached]
            exact ih (k + 1) (by omega)

omit base_nonneg in
/-- Every multiplier the loop doubles is a power of two that doubles exactly. -/
theorem doubledMultipliers_pow (r : Nat) : ∀ k, k + r ≤ 30 →
    ∀ multiplier ∈ doubledMultipliers policy r (2 ^ k), ∃ j < 30, multiplier = 2 ^ j := by
  induction r with
  | zero =>
      intro k _ multiplier member
      cases member
  | succ r ih =>
      intro k bound multiplier member
      rw [doubledMultipliers, saturatingDouble_pow (by omega)] at member
      rcases List.mem_cons.mp member with rfl | later
      · exact ⟨k, by omega, rfl⟩
      · cases multiplied : policy.baseBackoff.checkedMul (2 ^ (k + 1)) with
        | none =>
            rw [multiplied] at later
            cases later
        | some candidate =>
            simp only [multiplied] at later
            split at later
            · cases later
            · exact ih (k + 1) (by omega) multiplier later

/-- The exponential without the cap grows with the attempts. -/
theorem exponentialNanos_mono {attempts more : Nat} (grows : attempts ≤ more) :
    exponentialNanos policy attempts ≤ exponentialNanos policy more := by
  have exponents : min (attempts - policy.backoffAfterAttempts) 30 ≤
      min (more - policy.backoffAfterAttempts) 30 := by omega
  exact mul_le_mul_of_nonneg_left (pow_le_pow_right₀ (by decide) exponents) base_nonneg

end Loop

/-- `backoff_duration` of an accepted policy, at every attempt count. -/
theorem AuthRateLimitPolicy.Valid.backoffDuration_nanos {policy : AuthRateLimitPolicy}
    (valid : policy.Valid) (attempts : Nat) :
    (backoffDuration policy attempts).nanos =
      min policy.maxBackoff.nanos (exponentialNanos policy attempts) := by
  have base_nonneg : 0 ≤ policy.baseBackoff.nanos := Duration.le_iff.mp valid.baseBackoff_nonneg
  have max_nonneg : 0 ≤ policy.maxBackoff.nanos := Duration.le_iff.mp valid.maxBackoff_nonneg
  unfold backoffDuration
  split
  · rename_i zero_base
    have exponential : exponentialNanos policy attempts = 0 := by
      rw [exponentialNanos, zero_base]
      exact zero_mul _
    rw [exponential, min_eq_right max_nonneg]
    rfl
  · have loop := backoffFrom_nanos base_nonneg (min (attempts - policy.backoffAfterAttempts) 30) 0
      (by omega)
    rw [Nat.zero_add] at loop
    exact loop

/--
For every enabled, accepted policy and every number of attempts, the delay is
`base_backoff` doubled once for each attempt after `backoff_after_attempts`, at
most 30 times, and capped at `max_backoff`; it is zero for a zero base.  The
multiplier doubles exactly each time, up to at most `2 ^ 30`, and the delay never
shrinks as attempts are added.
-/
theorem backoffDuration_closed_form {policy : AuthRateLimitPolicy} {name : String}
    (enabled : policy.enabled = true) (accepted : policy.validate name = .ok ())
    (attempts : Nat) :
    (backoffDuration policy attempts).nanos =
        min policy.maxBackoff.nanos
          (policy.baseBackoff.nanos * 2 ^ min (attempts - policy.backoffAfterAttempts) 30) ∧
      (policy.baseBackoff = Duration.zero → backoffDuration policy attempts = Duration.zero) ∧
      (∀ multiplier ∈ doubledMultipliers policy
          (min (attempts - policy.backoffAfterAttempts) 30) 1,
        saturatingDouble multiplier = multiplier * 2 ∧ multiplier * 2 ≤ 2 ^ 30) ∧
      ∀ more, attempts ≤ more → backoffDuration policy attempts ≤ backoffDuration policy more := by
  have valid := AuthRateLimitPolicy.valid_of_validate enabled accepted
  refine ⟨valid.backoffDuration_nanos attempts, ?_, ?_, ?_⟩
  · intro zero_base
    rw [backoffDuration, if_pos zero_base]
  · intro multiplier member
    obtain ⟨j, below, rfl⟩ := doubledMultipliers_pow _ 0 (by omega) multiplier member
    have small : (2 : Int) ^ (j + 1) ≤ 2 ^ 30 := pow_le_pow_right₀ (by decide) below
    rw [saturatingDouble_pow below, ← pow_succ]
    exact ⟨rfl, small⟩
  · intro more grows
    rw [Duration.le_iff, valid.backoffDuration_nanos, valid.backoffDuration_nanos]
    exact min_le_min_left _
      (exponentialNanos_mono (Duration.le_iff.mp valid.baseBackoff_nonneg) grows)

theorem backoffDuration_closed_form_default :
    (backoffDuration AuthRateLimitConfig.default.credential 40).nanos = 300 * nanosPerSecond := by
  have accepted : AuthRateLimitConfig.default.credential.validate "credential rate limit" =
    .ok () := rfl
  exact (backoffDuration_closed_form rfl accepted 40).1.trans (by decide)

end AgqlAuth
