import Mathlib.Algebra.Order.Ring.Int
import Mathlib.Algebra.Order.Ring.Nat
import Mathlib.Data.List.Basic

/-!
# Percent encoding and base64

The text forms that requests to a provider and random secrets are written in.
-/

namespace AgqlAuth

def utf8Bytes (s : String) : List UInt8 := s.toUTF8.toList

def upperHexDigit (n : Nat) : Char := if n < 10 then Char.ofNat (48 + n) else Char.ofNat (55 + n)

/-- `utf8_percent_encode`, leaving the bytes of `kept` as they are. -/
def percentEncode (kept : UInt8 → Bool) (s : String) : String :=
  .ofList ((utf8Bytes s).flatMap fun byte =>
    if kept byte then [Char.ofNat byte.toNat]
    else ['%', upperHexDigit (byte.toNat / 16), upperHexDigit (byte.toNat % 16)])

def hexDigitValue (byte : UInt8) : Option Nat :=
  let n := byte.toNat
  if 48 ≤ n ∧ n ≤ 57 then some (n - 48)
  else if 65 ≤ n ∧ n ≤ 70 then some (n - 55)
  else if 97 ≤ n ∧ n ≤ 102 then some (n - 87)
  else none

/-- `percent_decode`: a `%` that two digits do not follow stays. -/
def percentDecodeBytes : List UInt8 → List UInt8
  | 0x25 :: high :: low :: rest =>
      match hexDigitValue high, hexDigitValue low with
      | some h, some l => UInt8.ofNat (16 * h + l) :: percentDecodeBytes rest
      | _, _ => 0x25 :: percentDecodeBytes (high :: low :: rest)
  | byte :: rest => byte :: percentDecodeBytes rest
  | [] => []

def asciiAlphanumeric (byte : UInt8) : Bool :=
  let n := byte.toNat
  (48 ≤ n && n ≤ 57) || (65 ≤ n && n ≤ 90) || (97 ≤ n && n ≤ 122)

theorem byteArray_toList_loop (bytes : ByteArray) (i : Nat) (read : List UInt8) :
    ByteArray.toList.loop bytes i read = read.reverse ++ bytes.data.toList.drop i := by
  induction i, read using ByteArray.toList.loop.induct bytes with
  | case1 i read more ih =>
      have inside : i < bytes.data.toList.length := by simpa using more
      have next : bytes.get! i = bytes.data.toList[i] := by
        show bytes.data[i]! = _
        rw [getElem!_pos bytes.data i more, Array.getElem_toList]
      rw [ByteArray.toList.loop, if_pos more, ih, List.reverse_cons, List.drop_eq_getElem_cons inside,
        next, List.append_assoc, List.singleton_append]
  | case2 i read done =>
      have short : bytes.data.toList.length ≤ i := by simpa using done
      rw [ByteArray.toList.loop, if_neg done, List.drop_eq_nil_of_le short, List.append_nil]

theorem utf8Bytes_ofList (chars : List Char) :
    utf8Bytes (.ofList chars) = chars.flatMap String.utf8EncodeChar := by
  show ByteArray.toList (chars.flatMap String.utf8EncodeChar).toByteArray = _
  rw [ByteArray.toList, byteArray_toList_loop, List.data_toByteArray]
  rfl

theorem utf8Bytes_eq (s : String) : utf8Bytes s = s.toList.flatMap String.utf8EncodeChar := by
  have chars := utf8Bytes_ofList s.toList
  rwa [String.ofList_toList] at chars

theorem utf8Bytes_append (s t : String) : utf8Bytes (s ++ t) = utf8Bytes s ++ utf8Bytes t := by
  rw [utf8Bytes_eq, utf8Bytes_eq s, utf8Bytes_eq t, String.toList_append, List.flatMap_append]

/-- The bytes of ASCII characters are their code points. -/
theorem utf8Bytes_of_ascii {chars : List Char} (ascii : ∀ c ∈ chars, c.toNat < 128) :
    utf8Bytes (.ofList chars) = chars.map fun c => UInt8.ofNat c.toNat := by
  rw [utf8Bytes_ofList, List.map_eq_flatMap]
  refine List.flatMap_congr fun c mem => ?_
  have small : c.utf8Size = 1 := by
    have bound := ascii c mem
    rw [Char.utf8Size_eq_one_iff]
    exact UInt32.le_iff_toNat_le.mpr (Nat.le_of_lt_succ bound)
  rw [String.utf8EncodeChar_eq_singleton small]
  rfl

theorem hexDigitValue_upperHexDigit {n : Nat} (small : n < 16) :
    hexDigitValue (UInt8.ofNat (upperHexDigit n).toNat) = some n := by
  have digits : ∀ n < 16, hexDigitValue (UInt8.ofNat (upperHexDigit n).toNat) = some n := by decide
  exact digits n small

theorem percentDecodeBytes_of_ne {byte : UInt8} (plain : byte ≠ 0x25) (rest : List UInt8) :
    percentDecodeBytes (byte :: rest) = byte :: percentDecodeBytes rest := by
  rw [percentDecodeBytes]
  intro high low later same
  exact absurd same plain

theorem percentDecodeBytes_escape {high low : UInt8} {h l : Nat} (first : hexDigitValue high = some h)
    (second : hexDigitValue low = some l) (rest : List UInt8) :
    percentDecodeBytes (0x25 :: high :: low :: rest) =
      UInt8.ofNat (16 * h + l) :: percentDecodeBytes rest := by
  rw [percentDecodeBytes, first, second]

/-- How one byte is written. -/
def encodedByte (kept : UInt8 → Bool) (byte : UInt8) : List Char :=
  if kept byte then [Char.ofNat byte.toNat]
  else ['%', upperHexDigit (byte.toNat / 16), upperHexDigit (byte.toNat % 16)]

theorem percentEncode_eq (kept : UInt8 → Bool) (s : String) :
    percentEncode kept s = .ofList ((utf8Bytes s).flatMap (encodedByte kept)) := rfl

theorem toNat_ofNat_of_ascii {n : Nat} (ascii : n < 128) : (Char.ofNat n).toNat = n := by
  have valid : n.isValidChar := .inl (by omega)
  rw [Char.ofNat, dif_pos valid]
  rfl

theorem upperHexDigit_ascii {n : Nat} (small : n < 16) : (upperHexDigit n).toNat < 128 := by
  have digits : ∀ n < 16, (upperHexDigit n).toNat < 128 := by decide
  exact digits n small

section Kept

variable {kept : UInt8 → Bool} (ascii : ∀ byte, kept byte = true → byte.toNat < 128)
variable (plain : kept 0x25 = false)
include ascii

theorem encodedByte_ascii {byte : UInt8} {c : Char} (mem : c ∈ encodedByte kept byte) :
    c.toNat < 128 := by
  have bound := byte.toNat_lt
  unfold encodedByte at mem
  split at mem
  case isTrue known =>
    rw [List.mem_singleton.mp mem, toNat_ofNat_of_ascii (ascii byte known)]
    exact ascii byte known
  case isFalse =>
    simp only [List.mem_cons, List.not_mem_nil, or_false] at mem
    rcases mem with rfl | rfl | rfl
    · decide
    · exact upperHexDigit_ascii (by omega)
    · exact upperHexDigit_ascii (by omega)

include plain

theorem percentDecodeBytes_encodedByte (byte : UInt8) (rest : List UInt8) :
    percentDecodeBytes ((encodedByte kept byte).map (fun c => UInt8.ofNat c.toNat) ++ rest) =
      byte :: percentDecodeBytes rest := by
  have bound := byte.toNat_lt
  unfold encodedByte
  split
  case isTrue known =>
    have ne : byte ≠ 0x25 := by
      rintro rfl
      rw [plain] at known
      cases known
    rw [List.map_singleton, toNat_ofNat_of_ascii (ascii byte known), UInt8.ofNat_toNat,
      List.singleton_append, percentDecodeBytes_of_ne ne]
  case isFalse =>
    have whole : 16 * (byte.toNat / 16) + byte.toNat % 16 = byte.toNat := Nat.div_add_mod ..
    refine (percentDecodeBytes_escape (hexDigitValue_upperHexDigit (by omega))
      (hexDigitValue_upperHexDigit (by omega)) rest).trans ?_
    rw [whole, UInt8.ofNat_toNat]

/-- Decoding undoes encoding, if no kept byte is a percent sign or beyond ASCII. -/
theorem percentDecodeBytes_percentEncode (s : String) :
    percentDecodeBytes (utf8Bytes (percentEncode kept s)) = utf8Bytes s := by
  have written : ∀ c ∈ (utf8Bytes s).flatMap (encodedByte kept), c.toNat < 128 := by
    intro c mem
    obtain ⟨byte, -, mem⟩ := List.mem_flatMap.mp mem
    exact encodedByte_ascii ascii mem
  rw [percentEncode_eq, utf8Bytes_of_ascii written]
  generalize utf8Bytes s = bytes
  induction bytes with
  | nil => rfl
  | cons byte bytes ih =>
      rw [List.flatMap_cons, List.map_append, percentDecodeBytes_encodedByte ascii plain, ih]

end Kept

def base64Digit (last : Char × Char) (n : Nat) : Char :=
  if n < 26 then Char.ofNat (65 + n)
  else if n < 52 then Char.ofNat (71 + n)
  else if n < 62 then Char.ofNat (n - 4)
  else if n = 62 then last.1
  else last.2

/-- Groups of three bytes as four digits; `padding` fills the last group. -/
def base64Chars (last : Char × Char) (padding : Bool) : List UInt8 → List Char
  | [] => []
  | [a] =>
      let n := a.toNat * 16
      [base64Digit last (n / 64), base64Digit last (n % 64)] ++
        if padding then ['=', '='] else []
  | [a, b] =>
      let n := (a.toNat * 256 + b.toNat) * 4
      [base64Digit last (n / 4096), base64Digit last (n / 64 % 64), base64Digit last (n % 64)] ++
        if padding then ['='] else []
  | a :: b :: c :: rest =>
      let n := (a.toNat * 256 + b.toNat) * 256 + c.toNat
      base64Digit last (n / 262144) :: base64Digit last (n / 4096 % 64) ::
        base64Digit last (n / 64 % 64) :: base64Digit last (n % 64) ::
          base64Chars last padding rest

/-- `STANDARD.encode`. -/
def base64Standard (bytes : List UInt8) : String := .ofList (base64Chars ('+', '/') true bytes)

/-- `URL_SAFE_NO_PAD.encode`. -/
def base64UrlSafeNoPad (bytes : List UInt8) : String :=
  .ofList (base64Chars ('-', '_') false bytes)

/-- Only nothing is written as nothing. -/
theorem base64UrlSafeNoPad_ne_empty {bytes : List UInt8} (nonempty : bytes ≠ []) :
    base64UrlSafeNoPad bytes ≠ "" := by
  intro written
  have chars : base64Chars ('-', '_') false bytes = [] := by
    simpa [base64UrlSafeNoPad] using congrArg String.toList written
  rcases bytes with _ | ⟨a, _ | ⟨b, _ | ⟨c, rest⟩⟩⟩
  · exact nonempty rfl
  · simp [base64Chars] at chars
  · simp [base64Chars] at chars
  · simp [base64Chars] at chars

end AgqlAuth
