import AgqlAuth.Service.Totp
import Mathlib.Order.Bounds.Basic

/-!
# The acceptance window

The code of a step as the HOTP algorithm defines it, and the steps whose codes a
verification accepts.
-/

namespace AgqlAuth

/-- The last `width` decimal digits of a number. -/
def decimalDigits : Nat → Nat → List Char
  | 0, _ => []
  | width + 1, n => decimalDigits width (n / 10) ++ [Nat.digitChar (n % 10)]

/-- Four digest bytes from the offset in the last nibble, without the top bit, as a number. -/
def hotpValue (digest : Vector UInt8 20) : Nat :=
  let offset := digest[19]!.toNat % 16
  2 ^ 24 * (digest[offset]!.toNat % 128) + (2 ^ 16 * digest[offset + 1]!.toNat +
    (2 ^ 8 * digest[offset + 2]!.toNat + digest[offset + 3]!.toNat))

/-- The HOTP code of a counter: its truncated digest in so many decimal digits. -/
def hotpCode (lib : TotpLibrary) (secret : List UInt8) (step digits : Nat) : String :=
  .ofList (decimalDigits digits
    (hotpValue (lib.hmacSha1 secret (toBeBytes (UInt64.ofNat step))) % 10 ^ digits))

theorem decimalDigits_zero (width : Nat) : decimalDigits width 0 = List.replicate width '0' := by
  induction width with
  | zero => rfl
  | succ width ih =>
      rw [decimalDigits, ih, List.replicate_succ']
      rfl

/-- Zero padding writes exactly the digits of a number that fits. -/
theorem padded_eq_decimalDigits {width n : Nat} (positive : 0 < width) (fits : n < 10 ^ width) :
    List.replicate (width - (Nat.toDigits 10 n).length) '0' ++ Nat.toDigits 10 n =
      decimalDigits width n := by
  induction width generalizing n with
  | zero => exact absurd positive (by decide)
  | succ width ih =>
      by_cases small : n < 10
      · rw [Nat.toDigits_of_lt_base small, decimalDigits, Nat.div_eq_of_lt small,
          Nat.mod_eq_of_lt small, decimalDigits_zero]
        rfl
      · have large : 10 ≤ n := not_lt.mp small
        have wide : 0 < width := by
          rcases Nat.eq_zero_or_pos width with rfl | wide
          · rw [Nat.zero_add, Nat.pow_one] at fits
            exact absurd fits small
          · exact wide
        have quotient : n / 10 < 10 ^ width := by
          rw [Nat.pow_succ] at fits
          exact Nat.div_lt_of_lt_mul (Nat.mul_comm _ _ ▸ fits)
        rw [Nat.toDigits_of_base_le (by decide) large, List.length_append, List.length_singleton,
          Nat.add_sub_add_right, ← List.append_assoc, ih wide quotient, decimalDigits]

theorem packBytes_toNat (a b c d : UInt8) :
    ((a.toUInt32 &&& 0x7f) <<< 24 ||| b.toUInt32 <<< 16 ||| c.toUInt32 <<< 8 |||
        d.toUInt32).toNat =
      2 ^ 24 * (a.toNat % 128) + (2 ^ 16 * b.toNat + (2 ^ 8 * c.toNat + d.toNat)) := by
  have ha := a.toNat_lt
  have hb := b.toNat_lt
  have hc := c.toNat_lt
  have hd := d.toNat_lt
  have low : a.toNat &&& 127 = a.toNat % 128 := Nat.and_two_pow_sub_one_eq_mod a.toNat 7
  simp only [UInt32.toNat_or, UInt32.toNat_shiftLeft, UInt32.toNat_and, UInt8.toNat_toUInt32,
    UInt32.reduceToNat, Nat.reduceMod, Nat.shiftLeft_eq, low]
  have fits_a : a.toNat % 128 * 2 ^ 24 % 2 ^ 32 = a.toNat % 128 * 2 ^ 24 :=
    Nat.mod_eq_of_lt (by omega)
  have fits_b : b.toNat * 2 ^ 16 % 2 ^ 32 = b.toNat * 2 ^ 16 := Nat.mod_eq_of_lt (by omega)
  have fits_c : c.toNat * 2 ^ 8 % 2 ^ 32 = c.toNat * 2 ^ 8 := Nat.mod_eq_of_lt (by omega)
  rw [fits_a, fits_b, fits_c, Nat.mul_comm _ (2 ^ 24), Nat.mul_comm _ (2 ^ 16),
    Nat.mul_comm _ (2 ^ 8), Nat.or_assoc, Nat.or_assoc,
    ← Nat.two_pow_add_eq_or_of_lt (by omega) c.toNat,
    ← Nat.two_pow_add_eq_or_of_lt (by omega) b.toNat,
    ← Nat.two_pow_add_eq_or_of_lt (by omega) (a.toNat % 128)]

theorem truncateDigest_toNat (digest : Vector UInt8 20) :
    (truncateDigest digest).toNat = hotpValue digest := by
  have offset : (digest[19] &&& 0x0f).toNat = digest[19].toNat % 16 := by
    rw [UInt8.toNat_and]
    exact Nat.and_two_pow_sub_one_eq_mod digest[19].toNat 4
  have bound : digest[19].toNat % 16 < 16 := Nat.mod_lt _ (by decide)
  have last : digest[19]! = digest[19] := getElem!_pos digest 19 (by decide)
  have first : digest[digest[19].toNat % 16]! = digest[digest[19].toNat % 16] :=
    getElem!_pos digest _ _
  have second : digest[digest[19].toNat % 16 + 1]! = digest[digest[19].toNat % 16 + 1] :=
    getElem!_pos digest _ _
  have third : digest[digest[19].toNat % 16 + 2]! = digest[digest[19].toNat % 16 + 2] :=
    getElem!_pos digest _ _
  have fourth : digest[digest[19].toNat % 16 + 3]! = digest[digest[19].toNat % 16 + 3] :=
    getElem!_pos digest _ _
  simp only [truncateDigest, hotpValue, packBytes_toNat, offset, last, first, second, third, fourth]

/-- The options a verification goes on with. -/
theorem digits_of_validateTotpOptions {options : TotpOptions}
    (accepted : validateTotpOptions options = .ok ()) :
    6 ≤ options.digits.toNat ∧ options.digits.toNat ≤ 8 ∧ 0 < options.periodSeconds.toNat := by
  unfold validateTotpOptions at accepted
  split at accepted
  · cases accepted
  split at accepted
  · cases accepted
  rename_i digits period
  obtain ⟨least, most⟩ := not_not.mp digits
  refine ⟨UInt32.le_iff_toNat_le.mp least, UInt32.le_iff_toNat_le.mp most, ?_⟩
  refine Nat.pos_of_ne_zero fun zero => period ?_
  exact UInt64.toNat_inj.mp zero

theorem checkedPowTen_of_le {digits : UInt32} (bound : digits.toNat ≤ 8) :
    ∃ modulo, checkedPowTen digits = some modulo ∧ modulo.toNat = 10 ^ digits.toNat := by
  have small : 10 ^ digits.toNat < 2 ^ 32 :=
    Nat.lt_of_le_of_lt (Nat.pow_le_pow_right (by decide) bound) (by decide)
  exact ⟨_, if_pos small, UInt32.toNat_ofNat_of_lt' small⟩

/-- Six to eight digits are a power of ten that fits, and the code is the one of the step. -/
theorem generateTotpCodeForStep_eq {options : TotpOptions}
    (accepted : validateTotpOptions options = .ok ()) (lib : TotpLibrary) (secret : List UInt8)
    (step : Nat) :
    generateTotpCodeForStep lib secret (UInt64.ofNat step) options.digits =
      .ok (hotpCode lib secret step options.digits.toNat) := by
  obtain ⟨least, most, -⟩ := digits_of_validateTotpOptions accepted
  obtain ⟨modulo, power, value⟩ := checkedPowTen_of_le most
  have short : ∀ n, n % 10 ^ options.digits.toNat < 10 ^ options.digits.toNat :=
    fun n => Nat.mod_lt n (Nat.pow_pos (by decide))
  simp only [generateTotpCodeForStep, power, hotpCode, zeroPadded, UInt32.toNat_mod,
    truncateDigest_toNat, value, padded_eq_decimalDigits (by omega : 0 < options.digits.toNat)
      (short _)]

theorem isDigit_of_mem_decimalDigits {width n : Nat} {c : Char}
    (mem : c ∈ decimalDigits width n) : c.isDigit = true := by
  induction width generalizing n with
  | zero => cases mem
  | succ width ih =>
      rcases List.mem_append.mp mem with earlier | last
      · exact ih earlier
      · rw [List.mem_singleton.mp last]
        have digits : ∀ d < 10, (Nat.digitChar d).isDigit = true := by decide
        exact digits _ (Nat.mod_lt n (by decide))

/-- The steps from `first` on, `count` of them, that are not negative and have the code. -/
def MatchingSteps (lib : TotpLibrary) (secret : List UInt8) (digits : Nat) (code : String)
    (first : Int) (count : Nat) : Set Int :=
  {s | max 0 first ≤ s ∧ s < first + count ∧ hotpCode lib secret s.toNat digits = code}

section Loop

variable {lib : TotpLibrary} {window : TotpWindow} {code : String} {options : TotpOptions}

/-- Without a step that overflows the loop finds the least matching step, or that there is none. -/
theorem scanTotpSteps_spec (accepted : validateTotpOptions options = .ok ()) (remaining : Nat) :
    ∀ offset : Int, -(2 ^ 63) ≤ window.currentStep + offset →
      window.currentStep + offset + remaining ≤ 2 ^ 63 →
      (∃ s, scanTotpSteps lib window code options.digits remaining offset = some (.ok s) ∧
        IsLeast (MatchingSteps lib window.secret options.digits.toNat code
          (window.currentStep + offset) remaining) s) ∨
      (scanTotpSteps lib window code options.digits remaining offset =
          some (.error .invalidTotpCode) ∧
        MatchingSteps lib window.secret options.digits.toNat code
          (window.currentStep + offset) remaining = ∅) := by
  induction remaining with
  | zero =>
      intro offset _ _
      refine .inr ⟨rfl, Set.eq_empty_of_forall_notMem ?_⟩
      rintro s ⟨low, high, -⟩
      omega
  | succ remaining ih =>
      intro offset low high
      have next := ih (offset + 1) (by omega) (by omega)
      have rest_of : (∀ s, s = window.currentStep + offset → 0 ≤ s →
          hotpCode lib window.secret s.toNat options.digits.toNat ≠ code) →
          MatchingSteps lib window.secret options.digits.toNat code
            (window.currentStep + offset) (remaining + 1) =
          MatchingSteps lib window.secret options.digits.toNat code
            (window.currentStep + (offset + 1)) remaining := by
        intro passed
        ext s
        constructor
        · rintro ⟨above, below, same⟩
          have other : s ≠ window.currentStep + offset :=
            fun here => passed s here (by omega) same
          exact ⟨by omega, by omega, same⟩
        · rintro ⟨above, below, same⟩
          exact ⟨by omega, by omega, same⟩
      have in_range : ¬¬(-(2 ^ 63) ≤ window.currentStep + offset ∧
          window.currentStep + offset < 2 ^ 63) := not_not.mpr ⟨low, by omega⟩
      rw [scanTotpSteps]
      simp only [if_neg in_range, generateTotpCodeForStep_eq accepted]
      by_cases negative : window.currentStep + offset < 0
      · rw [if_pos negative, rest_of (fun s here nonneg => absurd negative (by omega))]
        exact next
      · rw [if_neg negative]
        by_cases same : hotpCode lib window.secret (window.currentStep + offset).toNat
            options.digits.toNat = code
        · rw [if_pos same]
          refine .inl ⟨_, rfl, ⟨by omega, by omega, same⟩, ?_⟩
          rintro s ⟨above, -, -⟩
          omega
        · rw [if_neg same, rest_of (fun s here _ => by rw [here]; exact same)]
          exact next

end Loop

/-- The whole periods since the epoch. -/
def currentTotpStep (now : OffsetDateTime) (options : TotpOptions) : Int :=
  now.unixNanos / (nanosPerSecond * options.periodSeconds.toNat)

/-- The steps in the window around the current one that have the code. -/
def AcceptableSteps (lib : TotpLibrary) (secret : List UInt8) (code : String)
    (options : TotpOptions) (now : OffsetDateTime) : Set Int :=
  {s | max 0 (currentTotpStep now options - options.allowedSkew.toNat) ≤ s ∧
    s ≤ currentTotpStep now options + options.allowedSkew.toNat ∧
    hotpCode lib secret s.toNat options.digits.toNat = code}

section Verification

variable {lib : TotpLibrary} {secretBase32 code : String} {secret : List UInt8}
variable {options : TotpOptions} {now : OffsetDateTime}

theorem totpStep_eq (later : 0 ≤ now.unixNanos) (short : options.periodSeconds.toNat < 2 ^ 63) :
    totpStep now options.periodSeconds = .ok (currentTotpStep now options) := by
  have seconds : 0 ≤ now.unixNanos / nanosPerSecond := Int.ediv_nonneg later (by decide)
  rw [totpStep, if_pos short, currentTotpStep, OffsetDateTime.unixTimestamp,
    Int.tdiv_eq_ediv_of_nonneg seconds, Int.ediv_ediv_of_nonneg (by decide)]

theorem currentTotpStep_nonneg (options : TotpOptions) (later : 0 ≤ now.unixNanos) :
    0 ≤ currentTotpStep now options :=
  Int.ediv_nonneg later (Int.mul_nonneg (by decide) (Int.natCast_nonneg _))

theorem acceptableSteps_eq :
    AcceptableSteps lib secret code options now =
      MatchingSteps lib secret options.digits.toNat code
        (currentTotpStep now options + -(options.allowedSkew.toNat : Int))
        (2 * options.allowedSkew.toNat + 1) := by
  ext s
  constructor
  · rintro ⟨above, below, same⟩
    exact ⟨by omega, by omega, same⟩
  · rintro ⟨above, below, same⟩
    exact ⟨by omega, by omega, same⟩

/-- A text with anything but digits is the code of no step. -/
theorem acceptableSteps_of_not_digits (other : code.toList.all Char.isDigit = false) :
    AcceptableSteps lib secret code options now = ∅ := by
  refine Set.eq_empty_of_forall_notMem ?_
  rintro s ⟨-, -, rfl⟩
  have digits : ∀ c ∈ (hotpCode lib secret s.toNat options.digits.toNat).toList,
      c.isDigit = true := by
    intro c mem
    rw [hotpCode, String.toList_ofList] at mem
    exact isDigit_of_mem_decimalDigits mem
  rw [List.all_eq_true.mpr digits] at other
  cases other

theorem totpWindow_of_not_digits (accepted : validateTotpOptions options = .ok ())
    (other : code.toList.all Char.isDigit = false) :
    totpWindow lib secretBase32 code options now = .error .invalidTotpCode := by
  rw [totpWindow, accepted]
  exact if_pos (by rw [other]; rfl)

theorem totpWindow_of_digits (accepted : validateTotpOptions options = .ok ())
    (digits : code.toList.all Char.isDigit = true)
    (decoded : lib.decodeBase32 secretBase32 = some secret) :
    totpWindow lib secretBase32 code options now =
      (totpStep now options.periodSeconds).bind fun currentStep =>
        if options.allowedSkew.toNat < 2 ^ 63 then
          .ok { secret, currentStep, skew := options.allowedSkew.toNat }
        else .error (.invalidConfiguration "invalid totp skew") := by
  rw [totpWindow, accepted]
  refine (if_neg (by rw [digits]; decide)).trans ?_
  rw [decodeBase32Secret, decoded]
  rfl

/-- A verification accepts the least acceptable step, and none where there is none. -/
theorem verifyTotpCodeStep_spec (accepted : validateTotpOptions options = .ok ())
    (decoded : lib.decodeBase32 secretBase32 = some secret) (later : 0 ≤ now.unixNanos)
    (short : options.periodSeconds.toNat < 2 ^ 63)
    (last : currentTotpStep now options + options.allowedSkew.toNat < 2 ^ 63) :
    (∃ s, verifyTotpCodeStep lib secretBase32 code options now = some (.ok s) ∧
      IsLeast (AcceptableSteps lib secret code options now) s) ∨
    (verifyTotpCodeStep lib secretBase32 code options now = some (.error .invalidTotpCode) ∧
      AcceptableSteps lib secret code options now = ∅) := by
  have start := currentTotpStep_nonneg options later
  have narrow : options.allowedSkew.toNat < 2 ^ 63 := by omega
  cases digits : code.toList.all Char.isDigit with
  | false =>
      refine .inr ⟨?_, acceptableSteps_of_not_digits digits⟩
      rw [verifyTotpCodeStep, totpWindow_of_not_digits accepted digits]
  | true =>
      have window : totpWindow lib secretBase32 code options now =
          .ok ⟨secret, currentTotpStep now options, options.allowedSkew.toNat⟩ := by
        rw [totpWindow_of_digits accepted digits decoded, totpStep_eq later short]
        exact if_pos narrow
      rw [verifyTotpCodeStep, window, acceptableSteps_eq]
      exact scanTotpSteps_spec accepted _ _ (by simp only; omega) (by simp only; omega)

/-- A period or a skew beyond `i64` is refused. -/
theorem verifyTotpCodeStep_of_large (accepted : validateTotpOptions options = .ok ())
    (digits : code.toList.all Char.isDigit = true)
    (decoded : lib.decodeBase32 secretBase32 = some secret)
    (large : 2 ^ 63 ≤ options.periodSeconds.toNat ∨ 2 ^ 63 ≤ options.allowedSkew.toNat) :
    ∃ message, verifyTotpCodeStep lib secretBase32 code options now =
      some (.error (.invalidConfiguration message)) := by
  rw [verifyTotpCodeStep, totpWindow_of_digits accepted digits decoded, totpStep]
  by_cases short : options.periodSeconds.toNat < 2 ^ 63
  · have wide : ¬options.allowedSkew.toNat < 2 ^ 63 := by omega
    rw [if_pos short]
    refine ⟨"invalid totp skew", ?_⟩
    simp only [Except.bind, if_neg wide]
  · rw [if_neg short]
    exact ⟨"totp period is too large", rfl⟩

end Verification

end AgqlAuth
