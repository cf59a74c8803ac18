import Mathlib.Data.Nat.Bitwise

/-!
# Bit strings

Numbers and bytes as bit strings, the highest bit first, and the bytes that a
longer bit string starts with.
-/

namespace AgqlAuth.Radix

/-- The lowest `width` bits of a number. -/
def bitsOf : Nat → Nat → List Bool
  | 0, _ => []
  | width + 1, n => n.testBit width :: bitsOf width n

/-- The number that a bit string writes. -/
def ofBits : List Bool → Nat
  | [] => 0
  | bit :: bits => 2 ^ bits.length * bit.toNat + ofBits bits

@[simp]
theorem length_bitsOf (width n : Nat) : (bitsOf width n).length = width := by
  induction width with
  | zero => rfl
  | succ width ih => rw [bitsOf, List.length_cons, ih]

theorem ofBits_lt (bits : List Bool) : ofBits bits < 2 ^ bits.length := by
  induction bits with
  | nil => exact Nat.one_pos
  | cons bit bits ih =>
      have bound : bit.toNat ≤ 1 := Bool.toNat_le bit
      have high : 2 ^ bits.length * bit.toNat ≤ 2 ^ bits.length * 1 := Nat.mul_le_mul_left _ bound
      rw [ofBits, List.length_cons, Nat.pow_succ]
      omega

/-- Only the lowest bits are read. -/
theorem bitsOf_congr {width m n : Nat} (agree : ∀ i < width, m.testBit i = n.testBit i) :
    bitsOf width m = bitsOf width n := by
  induction width with
  | zero => rfl
  | succ width ih =>
      rw [bitsOf, bitsOf, agree width (Nat.lt_succ_self width)]
      exact congrArg _ (ih fun i small => agree i (Nat.lt_succ_of_lt small))

theorem bitsOf_mod (width n : Nat) : bitsOf width (n % 2 ^ width) = bitsOf width n := by
  refine bitsOf_congr fun i small => ?_
  rw [Nat.testBit_mod_two_pow, decide_eq_true small, Bool.true_and]

/-- A bit string splits where its number does. -/
theorem bitsOf_add (high low n : Nat) :
    bitsOf (high + low) n = bitsOf high (n / 2 ^ low) ++ bitsOf low n := by
  induction high with
  | zero => rw [Nat.zero_add, bitsOf, List.nil_append]
  | succ high ih =>
      have shifted : (n / 2 ^ low).testBit high = n.testBit (high + low) := by
        rw [Nat.testBit_div_two_pow, Nat.add_comm]
      rw [Nat.succ_add, bitsOf, bitsOf, ih, shifted, List.cons_append]

theorem bitsOf_mul_add {low m : Nat} (fits : m < 2 ^ low) (high n : Nat) :
    bitsOf (high + low) (n * 2 ^ low + m) = bitsOf high n ++ bitsOf low m := by
  have top : (n * 2 ^ low + m) / 2 ^ low = n := by
    rw [Nat.mul_comm, Nat.mul_add_div (Nat.two_pow_pos low), Nat.div_eq_of_lt fits, Nat.add_zero]
  rw [bitsOf_add, top, ← bitsOf_mod low (n * 2 ^ low + m), Nat.mul_add_mod_of_lt fits]

theorem bitsOf_zero (width : Nat) : bitsOf width 0 = List.replicate width false := by
  induction width with
  | zero => rfl
  | succ width ih => rw [bitsOf, ih, Nat.zero_testBit, List.replicate_succ]

theorem bitsOf_ofBits (bits : List Bool) : bitsOf bits.length (ofBits bits) = bits := by
  induction bits with
  | nil => rfl
  | cons bit bits ih =>
      have top : (2 ^ bits.length * bit.toNat + ofBits bits).testBit bits.length = bit := by
        rw [Nat.testBit_two_pow_mul_add _ (ofBits_lt bits), if_neg (lt_irrefl _), Nat.sub_self]
        cases bit <;> rfl
      have rest : bitsOf bits.length (2 ^ bits.length * bit.toNat + ofBits bits) = bits := by
        rw [← bitsOf_mod, Nat.mul_add_mod, Nat.mod_eq_of_lt (ofBits_lt bits), ih]
      rw [List.length_cons, bitsOf, ofBits, top, rest]

theorem ofBits_bitsOf {width n : Nat} (fits : n < 2 ^ width) : ofBits (bitsOf width n) = n := by
  have same : bitsOf width (ofBits (bitsOf width n)) = bitsOf width n := by
    have written := bitsOf_ofBits (bitsOf width n)
    rwa [length_bitsOf] at written
  have small : ofBits (bitsOf width n) < 2 ^ width := by
    have bound := ofBits_lt (bitsOf width n)
    rwa [length_bitsOf] at bound
  generalize ofBits (bitsOf width n) = m at same small
  refine Nat.eq_of_testBit_eq fun i => ?_
  by_cases inside : i < width
  · clear small fits
    induction width with
    | zero => cases inside
    | succ width ih =>
        obtain ⟨top, rest⟩ := List.cons.inj same
        rcases Nat.lt_succ_iff_lt_or_eq.mp inside with lower | rfl
        · exact ih rest lower
        · exact top
  · have wide : 2 ^ width ≤ 2 ^ i := Nat.pow_le_pow_right Nat.two_pos (Nat.le_of_not_lt inside)
    rw [Nat.testBit_lt_two_pow (small.trans_le wide), Nat.testBit_lt_two_pow (fits.trans_le wide)]

def byteBits (bytes : List UInt8) : List Bool := bytes.flatMap fun byte => bitsOf 8 byte.toNat

/-- The first `count` bytes of a bit string. -/
def takeBytes : Nat → List Bool → List UInt8
  | 0, _ => []
  | count + 1, bits => UInt8.ofNat (ofBits (bits.take 8)) :: takeBytes count (bits.drop 8)

/-- The whole bytes of a bit string; what is left over is dropped. -/
def bytesOf (bits : List Bool) : List UInt8 := takeBytes (bits.length / 8) bits

@[simp]
theorem length_byteBits (bytes : List UInt8) : (byteBits bytes).length = 8 * bytes.length := by
  induction bytes with
  | nil => rfl
  | cons byte bytes ih =>
      have whole : byteBits (byte :: bytes) = bitsOf 8 byte.toNat ++ byteBits bytes := rfl
      rw [whole, List.length_append, length_bitsOf, ih, List.length_cons]
      omega

theorem takeBytes_byteBits (bytes : List UInt8) (rest : List Bool) :
    takeBytes bytes.length (byteBits bytes ++ rest) = bytes := by
  induction bytes with
  | nil => rfl
  | cons byte bytes ih =>
      have whole : byteBits (byte :: bytes) ++ rest =
          bitsOf 8 byte.toNat ++ (byteBits bytes ++ rest) := List.append_assoc ..
      rw [List.length_cons, takeBytes, whole, List.take_left' (length_bitsOf 8 _),
        List.drop_left' (length_bitsOf 8 _), ofBits_bitsOf byte.toNat_lt, UInt8.ofNat_toNat, ih]

/-- Less than a byte after the bytes is not read. -/
theorem bytesOf_byteBits (bytes : List UInt8) {rest : List Bool} (short : rest.length < 8) :
    bytesOf (byteBits bytes ++ rest) = bytes := by
  have count : (byteBits bytes ++ rest).length / 8 = bytes.length := by
    rw [List.length_append, length_byteBits]
    omega
  rw [bytesOf, count, takeBytes_byteBits]

end AgqlAuth.Radix
