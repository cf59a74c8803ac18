import AgqlAuth.Radix.Bits

/-!
# Texts of power-of-two radix

A text writes a byte string in digits of a few bits, the last one filled up with
zeros.  A reader takes the digits' bits and drops what fills no byte.
-/

namespace AgqlAuth.Radix

/-- The characters of the digits of `width` bits. -/
structure Alphabet (width : Nat) where
  digit : Nat → Char
  value : Char → Option Nat
  value_digit : ∀ n < 2 ^ width, value (digit n) = some n

variable {width : Nat}

def bitsOfDigits (width : Nat) (digits : List Nat) : List Bool := digits.flatMap (bitsOf width)

/-- So many groups of `width` bits, filled up with zeros. -/
def groupsOf (width : Nat) : Nat → List Bool → List Nat
  | 0, _ => []
  | count + 1, bits =>
      ofBits ((bits.take width).rightpad width false) :: groupsOf width count (bits.drop width)

/-- The fewest digits that hold the bits. -/
def digitsOf (width : Nat) (bits : List Bool) : List Nat :=
  groupsOf width ((bits.length + width - 1) / width) bits

theorem length_group (bits : List Bool) :
    ((bits.take width).rightpad width false).length = width := by
  rw [List.rightpad, List.length_append, List.length_take, List.length_replicate]
  omega

theorem groupsOf_lt {count : Nat} {bits : List Bool} :
    ∀ digit ∈ groupsOf width count bits, digit < 2 ^ width := by
  induction count generalizing bits with
  | zero => exact nofun
  | succ count ih =>
      intro digit mem
      rcases List.mem_cons.mp mem with rfl | mem
      · have bound := ofBits_lt ((bits.take width).rightpad width false)
        rwa [length_group] at bound
      · exact ih digit mem

theorem bitsOfDigits_groupsOf {count : Nat} {bits : List Bool}
    (enough : bits.length ≤ count * width) :
    bitsOfDigits width (groupsOf width count bits) =
      bits ++ List.replicate (count * width - bits.length) false := by
  induction count generalizing bits with
  | zero =>
      obtain rfl : bits = [] := List.eq_nil_of_length_eq_zero (by omega)
      simp [bitsOfDigits, groupsOf]
  | succ count ih =>
      have group : bitsOf width (ofBits ((bits.take width).rightpad width false)) =
          (bits.take width).rightpad width false := by
        have written := bitsOf_ofBits ((bits.take width).rightpad width false)
        rwa [length_group] at written
      have whole : bitsOfDigits width (groupsOf width (count + 1) bits) =
          (bits.take width).rightpad width false ++
            bitsOfDigits width (groupsOf width count (bits.drop width)) := by
        rw [groupsOf, bitsOfDigits, List.flatMap_cons, group]
        rfl
      rw [Nat.succ_mul] at enough ⊢
      have later : (bits.drop width).length ≤ count * width := by
        rw [List.length_drop]
        omega
      rw [whole, ih later, List.length_drop, List.rightpad]
      by_cases long : width ≤ bits.length
      · have full : (bits.take width).length = width := List.length_take_of_le long
        have left : count * width - (bits.length - width) =
            count * width + width - bits.length := by
          omega
        rw [full, Nat.sub_self, List.replicate_zero, List.append_nil, ← List.append_assoc,
          List.take_append_drop, left]
      · have short : bits.length ≤ width := (Nat.lt_of_not_le long).le
        have left : width - bits.length + (count * width - (bits.length - width)) =
            count * width + width - bits.length := by
          omega
        rw [List.take_of_length_le short, List.drop_eq_nil_of_le short, List.nil_append,
          List.append_assoc, List.replicate_append_replicate, left]

namespace Alphabet

variable (alphabet : Alphabet width)

def write (bytes : List UInt8) : List Char := (digitsOf width (byteBits bytes)).map alphabet.digit

def read (chars : List Char) : Option (List UInt8) :=
  (chars.mapM alphabet.value).map fun digits => bytesOf (bitsOfDigits width digits)

variable {alphabet}

theorem mapM_value {digits : List Nat} (small : ∀ digit ∈ digits, digit < 2 ^ width) :
    (digits.map alphabet.digit).mapM alphabet.value = some digits := by
  induction digits with
  | nil => rfl
  | cons digit digits ih =>
      have rest := ih fun other mem => small other (List.mem_cons_of_mem _ mem)
      have first := alphabet.value_digit digit (small digit List.mem_cons_self)
      rw [List.map_cons, List.mapM_cons, first, rest]
      rfl

/-- Digits whose bits are those of the bytes, and less than a byte more, are read as the bytes. -/
theorem read_of_digits {digits : List Nat} {bytes : List UInt8} {rest : List Bool}
    (small : ∀ digit ∈ digits, digit < 2 ^ width)
    (bits : bitsOfDigits width digits = byteBits bytes ++ rest) (short : rest.length < 8) :
    alphabet.read (digits.map alphabet.digit) = some bytes := by
  rw [read, mapM_value small, Option.map_some, bits, bytesOf_byteBits bytes short]

/-- A text is read as the bytes it was written from. -/
theorem read_write (positive : 0 < width) (narrow : width ≤ 8) (bytes : List UInt8) :
    alphabet.read (alphabet.write bytes) = some bytes := by
  have enough : (byteBits bytes).length ≤
      ((byteBits bytes).length + width - 1) / width * width := by
    have fits := Nat.lt_div_mul_add (a := (byteBits bytes).length + width - 1) positive
    omega
  refine read_of_digits groupsOf_lt (bitsOfDigits_groupsOf enough) ?_
  have least := Nat.div_mul_le_self ((byteBits bytes).length + width - 1) width
  rw [List.length_replicate]
  omega

end Alphabet

end AgqlAuth.Radix
