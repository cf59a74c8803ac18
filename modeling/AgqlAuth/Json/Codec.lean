import Mathlib.Algebra.Order.Ring.Int
import Mathlib.Algebra.Order.Ring.Nat
import Mathlib.Data.List.Basic

/-!
# JSON values and their readers

Values as a JSON library holds them, and pairs of a writer and a reader of one
type.  A codec says on which values reading undoes writing; everything built from
codecs inherits the law.
-/

namespace AgqlAuth

/-- A number as `serde_json` keeps it. -/
inductive JsonNumber where
  | posInt (value : Nat)
  | negInt (value : Int)
  | float (bits : BitVec 64)

inductive JsonValue where
  | null
  | bool (value : Bool)
  | number (value : JsonNumber)
  | string (value : String)
  | array (values : List JsonValue)
  | object (entries : List (String × JsonValue))

namespace Json

/-- A writer and a reader; no value is written as `null`. -/
structure Codec (α : Type) where
  write : α → JsonValue
  read : JsonValue → Option α
  /-- The values the written form can express. -/
  Fits : α → Prop
  read_write : ∀ {value}, Fits value → read (write value) = some value
  write_ne_null : ∀ value, write value ≠ .null

def string : Codec String where
  write := .string
  read
    | .string text => some text
    | _ => none
  Fits _ := True
  read_write _ := rfl
  write_ne_null _ := nofun

def bool : Codec Bool where
  write := .bool
  read
    | .bool flag => some flag
    | _ => none
  Fits _ := True
  read_write _ := rfl
  write_ne_null _ := nofun

/-- `value` is a signed 64-bit integer. -/
def FitsI64 (value : Int) : Prop := -(2 ^ 63) ≤ value ∧ value < 2 ^ 63

def readI64 : JsonNumber → Option Int
  | .posInt value => if value < 2 ^ 63 then some value else none
  | .negInt value => if -(2 ^ 63) ≤ value then some value else none
  | .float _ => none

def writeI64 (value : Int) : JsonNumber :=
  if value < 0 then .negInt value else .posInt value.toNat

theorem readI64_writeI64 {value : Int} (fits : FitsI64 value) :
    readI64 (writeI64 value) = some value := by
  obtain ⟨lower, upper⟩ := fits
  unfold writeI64
  split
  case isTrue negative => simp only [readI64, if_pos lower]
  case isFalse natural =>
    have small : value.toNat < 2 ^ 63 := by omega
    simp only [readI64, if_pos small, Option.some.injEq]
    omega

def i64 : Codec Int where
  write value := .number (writeI64 value)
  read
    | .number number => readI64 number
    | _ => none
  Fits := FitsI64
  read_write := readI64_writeI64
  write_ne_null _ := nofun

section Lists

variable {α : Type}

/-- Read every element, or nothing. -/
def readAll (read : JsonValue → Option α) : List JsonValue → Option (List α)
  | [] => some []
  | value :: rest =>
      match read value, readAll read rest with
      | some first, some others => some (first :: others)
      | _, _ => none

theorem readAll_map (codec : Codec α) {values : List α}
    (fit : ∀ value ∈ values, codec.Fits value) :
    readAll codec.read (values.map codec.write) = some values := by
  induction values with
  | nil => rfl
  | cons value rest ih =>
      have first := codec.read_write (fit value List.mem_cons_self)
      have others := ih fun other mem => fit other (List.mem_cons_of_mem _ mem)
      rw [List.map_cons, readAll, first, others]

def list (codec : Codec α) : Codec (List α) where
  write values := .array (values.map codec.write)
  read
    | .array values => readAll codec.read values
    | _ => none
  Fits values := ∀ value ∈ values, codec.Fits value
  read_write := readAll_map codec
  write_ne_null _ := nofun

end Lists

/--
An enumeration written as the name of its variant; it is also read from an object
whose one key is that name and whose value is `null`.
-/
def variant {α : Type} (name : α → String) (parse : String → Option α)
    (parse_name : ∀ value, parse (name value) = some value) : Codec α where
  write value := .string (name value)
  read
    | .string text => parse text
    | .object [(text, .null)] => parse text
    | _ => none
  Fits _ := True
  read_write _ := parse_name _
  write_ne_null _ := nofun

end Json

end AgqlAuth
