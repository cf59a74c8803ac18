import AgqlAuth.Base.Encoding
import AgqlAuth.Base.Text
import AgqlAuth.Radix.Alphabet

/-!
# Reading base64

The digits of a base64 text are the bits of its bytes, so a reader of either
alphabet gets back the bytes that were written.
-/

namespace AgqlAuth

open Radix

def base64Value (last : Char × Char) (c : Char) : Option Nat :=
  let n := c.toNat
  if 65 ≤ n ∧ n ≤ 90 then some (n - 65)
  else if 97 ≤ n ∧ n ≤ 122 then some (n - 71)
  else if 48 ≤ n ∧ n ≤ 57 then some (n + 4)
  else if c = last.1 then some 62
  else if c = last.2 then some 63
  else none

/-- The alphabet of `STANDARD`. -/
def standardAlphabet : Alphabet 6 where
  digit := base64Digit ('+', '/')
  value := base64Value ('+', '/')
  value_digit := by decide

/-- The alphabet of `URL_SAFE_NO_PAD`. -/
def urlSafeAlphabet : Alphabet 6 where
  digit := base64Digit ('-', '_')
  value := base64Value ('-', '_')
  value_digit := by decide

/-- Whole groups of four digits, the last one filled up with one or two `=`. -/
def readPadded (alphabet : Alphabet 6) (chars : List Char) : Option (List UInt8) :=
  let padding := chars.dropWhile (· != '=')
  if chars.length % 4 = 0 ∧ padding.length ≤ 2 ∧ padding.all (· == '=') then
    alphabet.read (chars.takeWhile (· != '='))
  else none

theorem byteBits_cons (byte : UInt8) (bytes : List UInt8) :
    byteBits (byte :: bytes) = bitsOf 8 byte.toNat ++ byteBits bytes := rfl

theorem bitsOfDigits_cons (digit : Nat) (digits : List Nat) :
    bitsOfDigits 6 (digit :: digits) = bitsOf 6 digit ++ bitsOfDigits 6 digits := rfl

theorem bitsOfDigits_nil : bitsOfDigits 6 [] = [] := rfl

theorem bitsOf_byte (width n : Nat) (byte : UInt8) :
    bitsOf (width + 8) (n * 256 + byte.toNat) = bitsOf width n ++ bitsOf 8 byte.toNat :=
  bitsOf_mul_add byte.toNat_lt width n

/-- The last digit of a number and those before it. -/
theorem bitsOf_digit (width n : Nat) :
    bitsOf (width + 6) n = bitsOf width (n / 64) ++ bitsOf 6 (n % 64) := by
  have low := bitsOf_mod 6 n
  rw [bitsOf_add]
  exact congrArg _ low.symm

/-- The digits of a text, the last group filled up with zeros. -/
def base64Digits : List UInt8 → List Nat
  | [] => []
  | [a] =>
      let n := a.toNat * 16
      [n / 64, n % 64]
  | [a, b] =>
      let n := (a.toNat * 256 + b.toNat) * 4
      [n / 4096, n / 64 % 64, n % 64]
  | a :: b :: c :: rest =>
      let n := (a.toNat * 256 + b.toNat) * 256 + c.toNat
      n / 262144 :: n / 4096 % 64 :: n / 64 % 64 :: n % 64 :: base64Digits rest

/-- How many digits a text of so many bytes lacks to whole groups. -/
def lackingDigits (count : Nat) : Nat := (3 - count % 3) % 3

theorem lackingDigits_add_three (count : Nat) :
    lackingDigits (count + 3) = lackingDigits count := by
  rw [lackingDigits, Nat.add_mod_right, lackingDigits]

theorem base64Chars_eq (last : Char × Char) (padding : Bool) (bytes : List UInt8) :
    base64Chars last padding bytes = (base64Digits bytes).map (base64Digit last) ++
      if padding then List.replicate (lackingDigits bytes.length) '=' else [] := by
  induction bytes using base64Digits.induct with
  | case1 => cases padding <;> rfl
  | case2 a => rfl
  | case3 a b => rfl
  | case4 a b c rest ih =>
      rw [base64Chars, ih, base64Digits]
      simp only [List.map_cons, List.cons_append, List.length_cons, Nat.add_assoc,
        lackingDigits_add_three, Nat.reduceAdd]

theorem base64Digits_lt (bytes : List UInt8) : ∀ digit ∈ base64Digits bytes, digit < 2 ^ 6 := by
  induction bytes using base64Digits.induct with
  | case1 => exact nofun
  | case2 a =>
      have bound := a.toNat_lt
      simp only [base64Digits, List.mem_cons, List.not_mem_nil, or_false, forall_eq_or_imp,
        forall_eq]
      omega
  | case3 a b =>
      have first := a.toNat_lt
      have second := b.toNat_lt
      simp only [base64Digits, List.mem_cons, List.not_mem_nil, or_false, forall_eq_or_imp,
        forall_eq]
      omega
  | case4 a b c rest ih =>
      have first := a.toNat_lt
      have second := b.toNat_lt
      have third := c.toNat_lt
      simp only [base64Digits, List.mem_cons, forall_eq_or_imp]
      refine ⟨?_, ?_, ?_, ?_, ih⟩ <;> omega

theorem length_base64Digits (bytes : List UInt8) :
    ((base64Digits bytes).length + lackingDigits bytes.length) % 4 = 0 := by
  induction bytes using base64Digits.induct with
  | case1 => rfl
  | case2 a => simp [base64Digits, lackingDigits]
  | case3 a b => simp [base64Digits, lackingDigits]
  | case4 a b c rest ih =>
      simp only [base64Digits, List.length_cons, Nat.add_assoc, Nat.reduceAdd,
        lackingDigits_add_three]
      omega

theorem bitsOfDigits_two (n : Nat) : bitsOfDigits 6 [n / 64, n % 64] = bitsOf 12 n := by
  rw [bitsOfDigits_cons, bitsOfDigits_cons, bitsOfDigits_nil, List.append_nil, bitsOf_digit 6]

theorem bitsOfDigits_three (n : Nat) :
    bitsOfDigits 6 [n / 4096, n / 64 % 64, n % 64] = bitsOf 18 n := by
  have high : n / 4096 = n / 64 / 64 := (Nat.div_div_eq_div_mul n 64 64).symm
  rw [high, bitsOfDigits_cons, bitsOfDigits_cons, bitsOfDigits_cons, bitsOfDigits_nil,
    List.append_nil, ← List.append_assoc, ← bitsOf_digit 6, ← bitsOf_digit 12]

theorem bitsOfDigits_four (n : Nat) (digits : List Nat) :
    bitsOfDigits 6 (n / 262144 :: n / 4096 % 64 :: n / 64 % 64 :: n % 64 :: digits) =
      bitsOf 24 n ++ bitsOfDigits 6 digits := by
  have first : n / 262144 = n / 4096 / 64 := (Nat.div_div_eq_div_mul n 4096 64).symm
  have second : n / 4096 = n / 64 / 64 := (Nat.div_div_eq_div_mul n 64 64).symm
  rw [bitsOf_digit 18, bitsOf_digit 12, ← second, bitsOf_digit 6, ← first]
  simp only [bitsOfDigits_cons, List.append_assoc]

/-- The digits have the bits of the bytes; less than a byte of zeros follows them. -/
theorem bitsOfDigits_base64Digits (bytes : List UInt8) :
    bitsOfDigits 6 (base64Digits bytes) =
      byteBits bytes ++ List.replicate (2 * lackingDigits bytes.length) false := by
  induction bytes using base64Digits.induct with
  | case1 => rfl
  | case2 a =>
      have zeros : bitsOf 12 (a.toNat * 16) = bitsOf 8 a.toNat ++ bitsOf 4 0 :=
        bitsOf_mul_add (Nat.two_pow_pos 4) 8 a.toNat
      rw [base64Digits, bitsOfDigits_two, zeros, bitsOf_zero]
      simp [byteBits, lackingDigits]
  | case3 a b =>
      have zeros : bitsOf 18 ((a.toNat * 256 + b.toNat) * 4) =
          bitsOf 16 (a.toNat * 256 + b.toNat) ++ bitsOf 2 0 :=
        bitsOf_mul_add (Nat.two_pow_pos 2) 16 (a.toNat * 256 + b.toNat)
      rw [base64Digits, bitsOfDigits_three, zeros, bitsOf_zero, bitsOf_byte 8]
      simp [byteBits, lackingDigits]
  | case4 a b c rest ih =>
      rw [base64Digits, bitsOfDigits_four, ih, bitsOf_byte 16, bitsOf_byte 8]
      simp only [byteBits_cons, List.append_assoc, List.length_cons, Nat.add_assoc,
        Nat.reduceAdd, lackingDigits_add_three]

theorem read_base64Digits {alphabet : Alphabet 6} (bytes : List UInt8) :
    alphabet.read ((base64Digits bytes).map alphabet.digit) = some bytes := by
  refine Alphabet.read_of_digits (base64Digits_lt bytes) (bitsOfDigits_base64Digits bytes) ?_
  rw [List.length_replicate, lackingDigits]
  omega

theorem read_base64UrlSafeNoPad (bytes : List UInt8) :
    urlSafeAlphabet.read (base64UrlSafeNoPad bytes).toList = some bytes := by
  rw [base64UrlSafeNoPad, String.toList_ofList, base64Chars_eq]
  exact (congrArg _ (List.append_nil _)).trans (read_base64Digits bytes)

theorem base64UrlSafeNoPad_injective : Function.Injective base64UrlSafeNoPad := by
  intro bytes bytes' same
  have read := read_base64UrlSafeNoPad bytes
  rw [same, read_base64UrlSafeNoPad] at read
  exact (Option.some.inj read).symm

theorem base64Digit_ne_padding {n : Nat} (small : n < 2 ^ 6) :
    standardAlphabet.digit n ≠ '=' := by
  have digits : ∀ n < 2 ^ 6, standardAlphabet.digit n ≠ '=' := by decide
  exact digits n small

theorem readPadded_base64Standard (bytes : List UInt8) :
    readPadded standardAlphabet (base64Standard bytes).toList = some bytes := by
  have text : (base64Standard bytes).toList =
      (base64Digits bytes).map standardAlphabet.digit ++
        List.replicate (lackingDigits bytes.length) '=' := by
    rw [base64Standard, String.toList_ofList, base64Chars_eq]
    rfl
  have digits : ∀ c ∈ (base64Digits bytes).map standardAlphabet.digit, (c != '=') = true := by
    intro c mem
    obtain ⟨n, listed, rfl⟩ := List.mem_map.mp mem
    exact bne_iff_ne.mpr (base64Digit_ne_padding (base64Digits_lt bytes n listed))
  have stops : ∀ c, (List.replicate (lackingDigits bytes.length) '=').head? = some c →
      (c != '=') = false := by
    intro c first
    rw [List.eq_of_mem_replicate (List.mem_of_mem_head? first)]
    rfl
  obtain ⟨front, back⟩ := takeWhile_of_stop _ _ digits stops
  have whole := length_base64Digits bytes
  rw [readPadded, text, front, back, if_pos, read_base64Digits]
  rw [List.length_append, List.length_map, List.length_replicate]
  refine ⟨whole, ?_, ?_⟩
  · rw [lackingDigits]
    omega
  · rw [List.all_replicate]
    simp

end AgqlAuth
