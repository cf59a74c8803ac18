import AgqlAuth.Json.Codec

/-!
# Equality of JSON values
-/

namespace AgqlAuth

deriving instance DecidableEq for JsonNumber

namespace JsonValue

mutual

def decEq (a b : JsonValue) : Decidable (a = b) :=
  match a, b with
  | .null, .null => isTrue rfl
  | .bool a, .bool b => decidable_of_iff (a = b) (by simp)
  | .number a, .number b => decidable_of_iff (a = b) (by simp)
  | .string a, .string b => decidable_of_iff (a = b) (by simp)
  | .array a, .array b =>
      have := decEqValues a b
      decidable_of_iff (a = b) (by simp)
  | .object a, .object b =>
      have := decEqEntries a b
      decidable_of_iff (a = b) (by simp)
  | .null, .bool _ | .null, .number _ | .null, .string _ | .null, .array _
  | .null, .object _ => isFalse nofun
  | .bool _, .null | .bool _, .number _ | .bool _, .string _ | .bool _, .array _
  | .bool _, .object _ => isFalse nofun
  | .number _, .null | .number _, .bool _ | .number _, .string _ | .number _, .array _
  | .number _, .object _ => isFalse nofun
  | .string _, .null | .string _, .bool _ | .string _, .number _ | .string _, .array _
  | .string _, .object _ => isFalse nofun
  | .array _, .null | .array _, .bool _ | .array _, .number _ | .array _, .string _
  | .array _, .object _ => isFalse nofun
  | .object _, .null | .object _, .bool _ | .object _, .number _ | .object _, .string _
  | .object _, .array _ => isFalse nofun

def decEqValues (a b : List JsonValue) : Decidable (a = b) :=
  match a, b with
  | [], [] => isTrue rfl
  | [], _ :: _ | _ :: _, [] => isFalse nofun
  | a :: as, b :: bs =>
      have := decEq a b
      have := decEqValues as bs
      decidable_of_iff (a = b ∧ as = bs) (by simp)

def decEqEntries (a b : List (String × JsonValue)) : Decidable (a = b) :=
  match a, b with
  | [], [] => isTrue rfl
  | [], _ :: _ | _ :: _, [] => isFalse nofun
  | (name, a) :: as, (other, b) :: bs =>
      have := decEq a b
      have := decEqEntries as bs
      decidable_of_iff (name = other ∧ a = b ∧ as = bs) (by simp [and_assoc])

end

instance : DecidableEq JsonValue := decEq

end JsonValue

end AgqlAuth
