import AgqlAuth.Base.Text
import Mathlib.Tactic.Ring

/-!
# Reading UUIDs

`Uuid::parse_str`: simple, hyphenated, braced and URN forms, digits of either
case.
-/

namespace AgqlAuth

/-- The value of a hexadecimal digit of either case. -/
def hexCharValue (c : Char) : Option Nat :=
  let n := c.toNat
  if 0x30 ≤ n ∧ n ≤ 0x39 then some (n - 0x30)
  else if 0x41 ≤ n ∧ n ≤ 0x46 then some (n - 0x41 + 10)
  else if 0x61 ≤ n ∧ n ≤ 0x66 then some (n - 0x61 + 10)
  else none

theorem hexCharValue_digitChar {value : Nat} (small : value < 16) :
    hexCharValue (Nat.digitChar value) = some value := by
  have table : ∀ v < 16, hexCharValue (Nat.digitChar v) = some v := by decide
  exact table value small

namespace Uuid

/-- The number written by hexadecimal digits, most significant first. -/
def ofHexDigits (digits : List Nat) : Nat := digits.foldl (fun high low => high * 16 + low) 0

/-- 32 hexadecimal digits. -/
def parseSimple (chars : List Char) : Option Uuid :=
  if chars.length = 32 then
    (chars.mapM hexCharValue).map fun digits => ⟨BitVec.ofNat 128 (ofHexDigits digits)⟩
  else none

/-- The `8-4-4-4-12` form. -/
def parseHyphenated (chars : List Char) : Option Uuid :=
  if chars.length = 36 ∧ [8, 13, 18, 23].all (fun i => chars[i]? == some '-') then
    parseSimple (chars.take 8 ++ (chars.drop 9).take 4 ++ (chars.drop 14).take 4 ++
      (chars.drop 19).take 4 ++ chars.drop 24)
  else none

/-- `Uuid::parse_str(..).ok()`. -/
def parse (text : String) : Option Uuid :=
  let chars := text.toList
  if chars.length = 32 then parseSimple chars
  else if chars.length = 36 then parseHyphenated chars
  else if chars.length = 38 ∧ chars.head? = some '\x7b' ∧ chars.getLast? = some '\x7d' then
    parseHyphenated (chars.drop 1).dropLast
  else if chars.length = 45 ∧ "urn:uuid:".toList.isPrefixOf chars then
    parseHyphenated (chars.drop 9)
  else none

theorem mapM_hexField (u : Uuid) (low width : Nat) :
    (u.hexField low width).mapM hexCharValue =
      some ((List.range width).reverse.map fun i => u.nibble (low + i)) := by
  unfold hexField
  generalize (List.range width).reverse = positions
  induction positions with
  | nil => rfl
  | cons i rest ih =>
      simp only [List.map_cons, List.mapM_cons, ih, hexCharValue_digitChar (u.nibble_lt (low + i))]
      rfl

/-- Neighbouring fields are one longer field. -/
theorem hexField_append (u : Uuid) (low width high : Nat) :
    u.hexField (low + width) high ++ u.hexField low width = u.hexField low (width + high) := by
  have shifted : (fun i => Nat.digitChar (u.nibble (low + width + i))) =
      fun i => Nat.digitChar (u.nibble (low + (width + i))) := by
    funext i
    rw [Nat.add_assoc]
  simp only [hexField, List.range_add, List.reverse_append, List.map_append, ← List.map_reverse,
    List.map_map, shifted]
  rfl

/-- The digits of the lowest `n` nibbles, read after `high`. -/
theorem foldl_nibbles (u : Uuid) (high n : Nat) :
    (((List.range n).reverse.map u.nibble).foldl (fun high low => high * 16 + low) high) =
      high * 16 ^ n + u.bits.toNat % 16 ^ n := by
  induction n generalizing high with
  | zero => simp [Nat.mod_one]
  | succ n ih =>
      rw [List.range_succ, List.reverse_append, List.reverse_singleton, List.singleton_append,
        List.map_cons, List.foldl_cons, ih, nibble, Nat.mod_pow_succ, Nat.pow_succ]
      ring

theorem parseSimple_hexField (u : Uuid) : parseSimple (u.hexField 0 32) = some u := by
  have digits : (List.range 32).reverse.map (fun i => u.nibble (0 + i)) =
      (List.range 32).reverse.map u.nibble := by
    simp
  have value : ofHexDigits ((List.range 32).reverse.map u.nibble) = u.bits.toNat := by
    have bound : u.bits.toNat < 16 ^ 32 := u.bits.isLt
    have read := foldl_nibbles u 0 32
    rw [Nat.zero_mul, Nat.zero_add, Nat.mod_eq_of_lt bound] at read
    exact read
  rw [parseSimple, if_pos (hexField_length u 0 32), mapM_hexField, digits, Option.map_some, value,
    BitVec.ofNat_toNat, BitVec.setWidth_eq]

/-- Hyphens stand between fields of 8, 4, 4, 4 and 12 characters. -/
theorem parseHyphenated_fields {a b c d e : List Char} (ha : a.length = 8) (hb : b.length = 4)
    (hc : c.length = 4) (hd : d.length = 4) (he : e.length = 12) :
    parseHyphenated (a ++ '-' :: (b ++ '-' :: (c ++ '-' :: (d ++ '-' :: e)))) =
      parseSimple (a ++ b ++ c ++ d ++ e) := by
  obtain ⟨a0, a1, a2, a3, a4, a5, a6, a7, rfl⟩ : ∃ a0 a1 a2 a3 a4 a5 a6 a7,
      a = [a0, a1, a2, a3, a4, a5, a6, a7] := by
    match a, ha with
    | [a0, a1, a2, a3, a4, a5, a6, a7], _ => exact ⟨a0, a1, a2, a3, a4, a5, a6, a7, rfl⟩
  obtain ⟨b0, b1, b2, b3, rfl⟩ : ∃ b0 b1 b2 b3, b = [b0, b1, b2, b3] := by
    match b, hb with
    | [b0, b1, b2, b3], _ => exact ⟨b0, b1, b2, b3, rfl⟩
  obtain ⟨c0, c1, c2, c3, rfl⟩ : ∃ c0 c1 c2 c3, c = [c0, c1, c2, c3] := by
    match c, hc with
    | [c0, c1, c2, c3], _ => exact ⟨c0, c1, c2, c3, rfl⟩
  obtain ⟨d0, d1, d2, d3, rfl⟩ : ∃ d0 d1 d2 d3, d = [d0, d1, d2, d3] := by
    match d, hd with
    | [d0, d1, d2, d3], _ => exact ⟨d0, d1, d2, d3, rfl⟩
  simp [parseHyphenated, he]

theorem parse_toString (u : Uuid) : parse u.toString = some u := by
  have whole : u.hexField 24 8 ++ u.hexField 20 4 ++ u.hexField 16 4 ++ u.hexField 12 4 ++
      u.hexField 0 12 = u.hexField 0 32 := by
    rw [hexField_append u 20 4 8, hexField_append u 16 4 12, hexField_append u 12 4 16,
      hexField_append u 0 12 20]
  have length : u.toString.toList.length = 36 := by
    simp [toString]
  rw [parse]
  simp only [length, Nat.reduceEqDiff, if_false, if_true]
  rw [toString, String.toList_ofList, parseHyphenated_fields (by simp) (by simp) (by simp) (by simp)
    (by simp), whole, parseSimple_hexField]

end Uuid

end AgqlAuth
