import Mathlib.Algebra.Order.Ring.Int
import Mathlib.Algebra.Order.Ring.Nat
import Mathlib.Data.List.Basic
import Mathlib.Data.List.DropRight
import Mathlib.Data.List.Infix

/-!
# Text and identifiers

The `str` operations of the Rust standard library that the service relies on,
and UUIDs with their hyphenated text form.
-/

namespace AgqlAuth

/-- The Unicode `White_Space` property, as `char::is_whitespace` reads it. -/
def isWhitespace (c : Char) : Bool :=
  let n := c.toNat
  (9 ≤ n && n ≤ 13) || n == 0x20 || n == 0x85 || n == 0xA0 || n == 0x1680 ||
    (0x2000 ≤ n && n ≤ 0x200A) || n == 0x2028 || n == 0x2029 || n == 0x202F ||
    n == 0x205F || n == 0x3000

/-- `str::trim`. -/
def trim (s : String) : String :=
  .ofList ((s.toList.dropWhile isWhitespace).reverse.dropWhile isWhitespace).reverse

/-- A text with a character that is no white space is not blank. -/
theorem trim_isEmpty_eq_false {s : String} {c : Char} (mem : c ∈ s.toList)
    (solid : isWhitespace c = false) : (trim s).isEmpty = false := by
  have kept : ∀ chars : List Char, c ∈ chars → c ∈ chars.dropWhile isWhitespace := by
    intro chars mem
    induction chars with
    | nil => cases mem
    | cons head rest ih =>
        unfold List.dropWhile
        split
        case h_1 blank =>
          rcases List.mem_cons.mp mem with rfl | mem
          · rw [solid] at blank
            cases blank
          · exact ih mem
        case h_2 => exact mem
  have trimmed := kept _ (List.mem_reverse.mpr (kept _ mem))
  cases empty : (trim s).isEmpty with
  | false => rfl
  | true =>
      have chars := congrArg String.toList (String.isEmpty_iff.mp empty)
      simp only [trim, String.toList_ofList, String.toList_empty, List.reverse_eq_nil_iff] at chars
      rw [chars] at trimmed
      cases trimmed

theorem trim_eq (s : String) :
    trim s = .ofList ((s.toList.dropWhile isWhitespace).rdropWhile isWhitespace) := rfl

/-- What is left of a text that starts with a solid character starts with it too. -/
theorem trim_trim (s : String) : trim (trim s) = trim s := by
  have started : ∀ chars : List Char,
      ((chars.dropWhile isWhitespace).rdropWhile isWhitespace).dropWhile isWhitespace =
        (chars.dropWhile isWhitespace).rdropWhile isWhitespace := by
    intro chars
    induction chars with
    | nil => rfl
    | cons head rest ih =>
        cases blank : isWhitespace head with
        | true => simpa [blank] using ih
        | false =>
            have kept : (head :: rest).dropWhile isWhitespace = head :: rest := by
              simp [blank]
            rw [kept]
            obtain ⟨tail, split⟩ := List.rdropWhile_prefix isWhitespace (head :: rest)
            cases trimmed : (head :: rest).rdropWhile isWhitespace with
            | nil => rfl
            | cons first others =>
                rw [trimmed] at split
                obtain ⟨rfl, -⟩ := List.cons.inj split
                simp [blank]
  rw [trim_eq, trim_eq, String.toList_ofList, started, List.rdropWhile_idempotent]

def toAsciiLowercaseChar (c : Char) : Char :=
  if 'A' ≤ c ∧ c ≤ 'Z' then Char.ofNat (c.toNat + 32) else c

/-- `str::to_ascii_lowercase`. -/
def toAsciiLowercase (s : String) : String := .ofList (s.toList.map toAsciiLowercaseChar)

/-- Lowering moves the 26 capitals and nothing else. -/
theorem toAsciiLowercaseChar_cases (c : Char) :
    toAsciiLowercaseChar c = c ∧ ¬(65 ≤ c.toNat ∧ c.toNat ≤ 90) ∨
      65 ≤ c.toNat ∧ c.toNat ≤ 90 ∧ (toAsciiLowercaseChar c).toNat = c.toNat + 32 := by
  unfold toAsciiLowercaseChar
  split
  case isTrue capital =>
    have bounds : 65 ≤ c.toNat ∧ c.toNat ≤ 90 := ⟨capital.1, capital.2⟩
    have valid : (c.toNat + 32).isValidChar := Or.inl (by omega)
    have moved : (Char.ofNat (c.toNat + 32)).toNat = c.toNat + 32 := by
      rw [Char.ofNat, dif_pos valid]
      rfl
    exact .inr ⟨bounds.1, bounds.2, moved⟩
  case isFalse other => exact .inl ⟨rfl, fun bounds => other ⟨bounds.1, bounds.2⟩⟩

theorem toAsciiLowercaseChar_idem (c : Char) :
    toAsciiLowercaseChar (toAsciiLowercaseChar c) = toAsciiLowercaseChar c := by
  rcases toAsciiLowercaseChar_cases c with ⟨same, -⟩ | ⟨low, high, lowered⟩
  · rw [same]
    exact same
  · rcases toAsciiLowercaseChar_cases (toAsciiLowercaseChar c) with ⟨same, -⟩ | ⟨-, again, -⟩
    · exact same
    · omega

theorem isWhitespace_toAsciiLowercaseChar (c : Char) :
    isWhitespace (toAsciiLowercaseChar c) = isWhitespace c := by
  rcases toAsciiLowercaseChar_cases c with ⟨same, -⟩ | ⟨low, high, lowered⟩
  · rw [same]
  · have solid : ∀ n, 65 ≤ n → n ≤ 122 → ∀ d : Char, d.toNat = n → isWhitespace d = false := by
      intro n low high d value
      simp only [isWhitespace, value, Bool.or_eq_false_iff, Bool.and_eq_false_iff,
        decide_eq_false_iff_not, beq_eq_false_iff_ne]
      omega
    rw [solid _ (by omega) (by omega) _ lowered, solid _ low (by omega) c rfl]

theorem toAsciiLowercase_idem (s : String) :
    toAsciiLowercase (toAsciiLowercase s) = toAsciiLowercase s := by
  simp [toAsciiLowercase, Function.comp_def, toAsciiLowercaseChar_idem]

theorem trim_toAsciiLowercase (s : String) :
    trim (toAsciiLowercase s) = toAsciiLowercase (trim s) := by
  have white : isWhitespace ∘ toAsciiLowercaseChar = isWhitespace :=
    funext isWhitespace_toAsciiLowercaseChar
  simp only [trim, toAsciiLowercase, String.toList_ofList, List.dropWhile_map, white,
    ← List.map_reverse]

/-- `str::eq_ignore_ascii_case`. -/
def eqIgnoreAsciiCase (a b : String) : Bool := toAsciiLowercase a == toAsciiLowercase b

theorem eqIgnoreAsciiCase_comm (a b : String) : eqIgnoreAsciiCase a b = eqIgnoreAsciiCase b a := by
  unfold eqIgnoreAsciiCase
  exact BEq.comm

/-- `char::is_control`: the general category Cc. -/
def isControl (c : Char) : Bool := c.toNat ≤ 0x1F || (0x7F ≤ c.toNat && c.toNat ≤ 0x9F)

/-- `str::starts_with`. -/
def startsWith (s start : String) : Bool := start.toList.isPrefixOf s.toList

/-- `str::strip_prefix`. -/
def stripPrefix (s start : String) : Option String :=
  (s.toList.dropPrefix? start.toList).map .ofList

/-- `str::strip_suffix`. -/
def stripSuffix (s ending : String) : Option String :=
  (s.toList.dropSuffix? ending.toList).map .ofList

/-- `str::contains` of a string. -/
def containsText (s part : String) : Bool := decide (part.toList <:+: s.toList)

/-- `str::split` at a character. -/
def splitAtChar (s : String) (separator : Char) : List String :=
  (s.toList.splitOn separator).map .ofList

theorem startsWith_iff {s start : String} :
    startsWith s start = true ↔ start.toList <+: s.toList := by
  simp [startsWith]

theorem stripPrefix_eq_some {s start rest : String} :
    stripPrefix s start = some rest ↔ s.toList = start.toList ++ rest.toList := by
  simp only [stripPrefix, Option.map_eq_some_iff, List.dropPrefix?_eq_some_iff, beq_iff_eq]
  constructor
  · rintro ⟨chars, ⟨first, whole, rfl⟩, rfl⟩
    rw [whole, String.toList_ofList]
  · intro whole
    exact ⟨rest.toList, ⟨start.toList, whole, rfl⟩, String.ofList_toList⟩

theorem stripSuffix_eq_some {s ending stem : String} :
    stripSuffix s ending = some stem ↔ s.toList = stem.toList ++ ending.toList := by
  simp only [stripSuffix, Option.map_eq_some_iff, List.dropSuffix?_eq_some_iff, beq_iff_eq]
  constructor
  · rintro ⟨chars, ⟨last, whole, rfl⟩, rfl⟩
    rw [whole, String.toList_ofList]
  · intro whole
    exact ⟨stem.toList, ⟨ending.toList, whole, rfl⟩, String.ofList_toList⟩

theorem splitAtChar_append {s before after : String} {separator : Char}
    (whole : s.toList = before.toList ++ separator :: after.toList) :
    splitAtChar s separator = splitAtChar before separator ++ splitAtChar after separator := by
  simp only [splitAtChar, whole, List.splitOn_eq_splitOnP]
  rw [List.splitOnP_append_cons (p := (· == separator)) _ _ (beq_self_eq_true separator),
    List.map_append]

theorem splitAtChar_intercalate {parts : List String} {separator : Char}
    (plain : ∀ part ∈ parts, separator ∉ part.toList) (nonempty : parts ≠ []) :
    splitAtChar ((String.singleton separator).intercalate parts) separator = parts := by
  have chars : ((String.singleton separator).intercalate parts).toList =
      [separator].intercalate (parts.map String.toList) := by
    rw [String.toList_intercalate, String.toList_singleton]
  rw [splitAtChar, chars, List.splitOn_intercalate separator (by simpa using plain)
    (by simpa using nonempty), List.map_map]
  simp

section Splitting

variable {α : Type} {p : α → Bool}

theorem takeWhile_of_stop (front back : List α) (kept : ∀ a ∈ front, p a = true)
    (stop : ∀ a, back.head? = some a → p a = false) :
    (front ++ back).takeWhile p = front ∧ (front ++ back).dropWhile p = back := by
  rw [List.takeWhile_append_of_pos kept, List.dropWhile_append_of_pos kept]
  cases back with
  | nil => simp
  | cons a rest => simp [stop a rfl]

theorem stop_of_dropWhile (chars : List α) :
    ∀ a, (chars.dropWhile p).head? = some a → p a = false := by
  intro a first
  have stopped := List.head?_dropWhile_not p chars
  rw [first] at stopped
  simpa using stopped

end Splitting

/-- Keep the first occurrence of each value. -/
def dedupeStableInto {α : Type} [DecidableEq α] : List α → List α → List α
  | seen, [] => seen
  | seen, value :: rest =>
      if value ∈ seen then dedupeStableInto seen rest
      else dedupeStableInto (seen ++ [value]) rest

def dedupeStable {α : Type} [DecidableEq α] (values : List α) : List α :=
  dedupeStableInto [] values

theorem mem_dedupeStableInto {α : Type} [DecidableEq α] {seen values : List α} {value : α} :
    value ∈ dedupeStableInto seen values ↔ value ∈ seen ∨ value ∈ values := by
  induction values generalizing seen with
  | nil => simp [dedupeStableInto]
  | cons head rest ih =>
      unfold dedupeStableInto
      split
      case isTrue known =>
        rw [ih, List.mem_cons]
        constructor
        · rintro (h | h)
          · exact .inl h
          · exact .inr (.inr h)
        · rintro (h | rfl | h)
          · exact .inl h
          · exact .inl known
          · exact .inr h
      case isFalse =>
        rw [ih, List.mem_append, List.mem_singleton, List.mem_cons, or_assoc]

@[simp]
theorem mem_dedupeStable {α : Type} [DecidableEq α] {values : List α} {value : α} :
    value ∈ dedupeStable values ↔ value ∈ values := by
  simp [dedupeStable, mem_dedupeStableInto]

theorem nodup_dedupeStableInto {α : Type} [DecidableEq α] {seen values : List α}
    (nodup : seen.Nodup) : (dedupeStableInto seen values).Nodup := by
  induction values generalizing seen with
  | nil => exact nodup
  | cons head rest ih =>
      unfold dedupeStableInto
      split
      case isTrue => exact ih nodup
      case isFalse unknown =>
        refine ih (List.nodup_append.mpr ⟨nodup, by simp, ?_⟩)
        intro value mem other same
        rw [List.mem_singleton.mp same]
        rintro rfl
        exact unknown mem

theorem nodup_dedupeStable {α : Type} [DecidableEq α] (values : List α) :
    (dedupeStable values).Nodup :=
  nodup_dedupeStableInto List.nodup_nil

/-- Nothing is dropped from a list without duplicates. -/
theorem dedupeStable_eq_self {α : Type} [DecidableEq α] {values : List α} (nodup : values.Nodup) :
    dedupeStable values = values := by
  have appended : ∀ seen rest : List α, (seen ++ rest).Nodup →
      dedupeStableInto seen rest = seen ++ rest := by
    intro seen rest
    induction rest generalizing seen with
    | nil => simp [dedupeStableInto]
    | cons head rest ih =>
        intro nodup
        have fresh : head ∉ seen := by
          intro known
          exact (List.nodup_append.mp nodup).2.2 head known head List.mem_cons_self rfl
        rw [dedupeStableInto, if_neg fresh, ih (seen ++ [head]), List.append_assoc,
          List.singleton_append]
        rwa [List.append_assoc, List.singleton_append]
  exact appended [] values nodup

structure Uuid where
  bits : BitVec 128
  deriving DecidableEq

namespace Uuid

def nibble (u : Uuid) (i : Nat) : Nat := u.bits.toNat / 16 ^ i % 16

/-- `width` hexadecimal digits, the least significant being nibble `low`. -/
def hexField (u : Uuid) (low width : Nat) : List Char :=
  (List.range width).reverse.map fun i => Nat.digitChar (u.nibble (low + i))

/-- The hyphenated lower-case form, `8-4-4-4-12` digits. -/
def toString (u : Uuid) : String :=
  .ofList (u.hexField 24 8 ++ '-' :: (u.hexField 20 4 ++ '-' :: (u.hexField 16 4 ++
    '-' :: (u.hexField 12 4 ++ '-' :: u.hexField 0 12))))

@[simp]
theorem hexField_length (u : Uuid) (low width : Nat) : (u.hexField low width).length = width := by
  simp [hexField]

/-- The text form of an identifier is not blank. -/
theorem trim_toString (u : Uuid) : (trim u.toString).isEmpty = false :=
  trim_isEmpty_eq_false (c := '-') (by simp [toString]) (by decide)

theorem digitChar_inj {a b : Nat} (ha : a < 16) (hb : b < 16)
    (same : Nat.digitChar a = Nat.digitChar b) : a = b := by
  have table : ∀ x < 16, ∀ y < 16, Nat.digitChar x = Nat.digitChar y → x = y := by decide
  exact table a ha b hb same

theorem nibble_lt (u : Uuid) (i : Nat) : u.nibble i < 16 := Nat.mod_lt _ (by decide)

theorem nibble_eq_of_hexField {u v : Uuid} {low width : Nat}
    (same : u.hexField low width = v.hexField low width) {i : Nat} (hi : i < width) :
    u.nibble (low + i) = v.nibble (low + i) := by
  have pointwise := List.map_inj_left.mp same i (by simpa using hi)
  exact digitChar_inj (nibble_lt u _) (nibble_lt v _) pointwise

/-- Equal low nibbles give equal low parts. -/
theorem mod_eq_of_nibbles {u v : Uuid} {n : Nat}
    (same : ∀ i < n, u.nibble i = v.nibble i) :
    u.bits.toNat % 16 ^ n = v.bits.toNat % 16 ^ n := by
  induction n with
  | zero => simp [Nat.mod_one]
  | succ n ih =>
      have low := ih fun i hi => same i (Nat.lt_succ_of_lt hi)
      have high : u.bits.toNat / 16 ^ n % 16 = v.bits.toNat / 16 ^ n % 16 :=
        same n (Nat.lt_succ_self n)
      rw [Nat.mod_pow_succ, Nat.mod_pow_succ, low, high]

theorem ext_nibbles {u v : Uuid} (same : ∀ i < 32, u.nibble i = v.nibble i) : u = v := by
  have whole := mod_eq_of_nibbles same
  have hu : u.bits.toNat < 16 ^ 32 := u.bits.isLt
  have hv : v.bits.toNat < 16 ^ 32 := v.bits.isLt
  rw [Nat.mod_eq_of_lt hu, Nat.mod_eq_of_lt hv] at whole
  cases u
  cases v
  exact congrArg Uuid.mk (BitVec.eq_of_toNat_eq whole)

/-- The text form determines the identifier. -/
theorem toString_injective : Function.Injective toString := by
  intro u v same
  have chars := String.ofList_inj.mp same
  obtain ⟨h24, chars⟩ := List.append_inj chars (by simp)
  obtain ⟨h20, chars⟩ := List.append_inj (List.cons.inj chars).2 (by simp)
  obtain ⟨h16, chars⟩ := List.append_inj (List.cons.inj chars).2 (by simp)
  obtain ⟨h12, chars⟩ := List.append_inj (List.cons.inj chars).2 (by simp)
  have h0 := (List.cons.inj chars).2
  refine ext_nibbles fun i hi => ?_
  rcases Nat.lt_or_ge i 12 with h | h
  · simpa using nibble_eq_of_hexField h0 h
  rcases Nat.lt_or_ge i 16 with h' | h'
  · simpa [Nat.add_sub_cancel' h] using
      nibble_eq_of_hexField h12 (i := i - 12) (by omega)
  rcases Nat.lt_or_ge i 20 with h'' | h''
  · simpa [Nat.add_sub_cancel' h'] using
      nibble_eq_of_hexField h16 (i := i - 16) (by omega)
  rcases Nat.lt_or_ge i 24 with h''' | h'''
  · simpa [Nat.add_sub_cancel' h''] using
      nibble_eq_of_hexField h20 (i := i - 20) (by omega)
  · simpa [Nat.add_sub_cancel' h'''] using
      nibble_eq_of_hexField h24 (i := i - 24) (by omega)

end Uuid

end AgqlAuth
