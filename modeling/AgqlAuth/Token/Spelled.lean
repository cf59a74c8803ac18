import AgqlAuth.Token.Table

/-!
# A library whose tokens spell their contents

A token is the program of a machine that builds JSON values on a stack.  Every
header, key and payload has its token, so the holder of a key can sign anything.
-/

namespace AgqlAuth

open Json

def pushChar (c : Char) : List JsonValue → List JsonValue
  | .string text :: stack => .string (text.push c) :: stack
  | stack => stack

def countUp : List JsonValue → List JsonValue
  | .number (.posInt value) :: stack => .number (.posInt (value + 1)) :: stack
  | .number (.negInt value) :: stack => .number (.negInt (value + 1)) :: stack
  | .number (.float bits) :: stack => .number (.float (bits + 1)) :: stack
  | stack => stack

def countDown : List JsonValue → List JsonValue
  | .number (.negInt value) :: stack => .number (.negInt (value - 1)) :: stack
  | stack => stack

def appendValue : List JsonValue → List JsonValue
  | value :: .array values :: stack => .array (values ++ [value]) :: stack
  | value :: .string name :: .object entries :: stack =>
      .object (entries ++ [(name, value)]) :: stack
  | stack => stack

def spellStep : Char → List JsonValue → List JsonValue
  | 'n', stack => .null :: stack
  | 't', stack => .bool true :: stack
  | 'f', stack => .bool false :: stack
  | '0', stack => .number (.posInt 0) :: stack
  | '-', stack => .number (.negInt 0) :: stack
  | '.', stack => .number (.float 0) :: stack
  | 's', stack => .string "" :: stack
  | '[', stack => .array [] :: stack
  | 'o', stack => .object [] :: stack
  | '+', stack => countUp stack
  | '_', stack => countDown stack
  | ',', stack => appendValue stack
  | _, stack => stack

/-- A character of a string stands after a `c`. -/
def spell : List Char → List JsonValue → List JsonValue
  | 'c' :: c :: rest, stack => spell rest (pushChar c stack)
  | c :: rest, stack => spell rest (spellStep c stack)
  | [], stack => stack

/-- Some text puts the value on the stack. -/
def Spelled (value : JsonValue) : Prop :=
  ∃ text : List Char, ∀ rest stack, spell (text ++ rest) stack = spell rest (value :: stack)

namespace Spelled

/-- A text that leads from one value on top to another. -/
theorem follow {value next : JsonValue} (spelled : Spelled value) (last : List Char)
    (leads : ∀ rest stack, spell (last ++ rest) (value :: stack) = spell rest (next :: stack)) :
    Spelled next := by
  obtain ⟨text, spells⟩ := spelled
  refine ⟨text ++ last, fun rest stack => ?_⟩
  rw [List.append_assoc, spells, leads]

theorem string (text : String) : Spelled (.string text) := by
  have pushed : ∀ (chars : List Char), Spelled (.string (.ofList chars)) := by
    intro chars
    induction chars using List.reverseRecOn with
    | nil => exact ⟨['s'], fun _ _ => rfl⟩
    | append_singleton chars c ih =>
        refine ih.follow ['c', c] fun rest stack => ?_
        have grown : (String.ofList chars).push c = .ofList (chars ++ [c]) := by
          rw [← String.toList_inj]
          simp
        rw [← grown]
        rfl
  simpa using pushed text.toList

theorem number (value : JsonNumber) : Spelled (.number value) := by
  cases value with
  | posInt value =>
      induction value with
      | zero => exact ⟨['0'], fun _ _ => rfl⟩
      | succ value ih => exact ih.follow ['+'] fun _ _ => rfl
  | negInt value =>
      induction value using Int.induction_on with
      | zero => exact ⟨['-'], fun _ _ => rfl⟩
      | succ value ih => exact ih.follow ['+'] fun _ _ => rfl
      | pred value ih => exact ih.follow ['_'] fun _ _ => rfl
  | float bits =>
      have counted : ∀ n : Nat, Spelled (.number (.float (BitVec.ofNat 64 n))) := by
        intro n
        induction n with
        | zero => exact ⟨['.'], fun _ _ => rfl⟩
        | succ n ih =>
            refine ih.follow ['+'] fun rest stack => ?_
            rw [BitVec.ofNat_add]
            rfl
      simpa using counted bits.toNat

theorem array {values : List JsonValue} (each : ∀ value ∈ values, Spelled value) :
    Spelled (.array values) := by
  induction values using List.reverseRecOn with
  | nil => exact ⟨['['], fun _ _ => rfl⟩
  | append_singleton values value ih =>
      obtain ⟨text, spells⟩ := each value (by simp)
      refine (ih fun other mem => each other (by simp [mem])).follow (text ++ [',']) ?_
      intro rest stack
      rw [List.append_assoc, spells]
      rfl

theorem object {entries : Entries} (each : ∀ entry ∈ entries, Spelled entry.2) :
    Spelled (.object entries) := by
  induction entries using List.reverseRecOn with
  | nil => exact ⟨['o'], fun _ _ => rfl⟩
  | append_singleton entries entry ih =>
      obtain ⟨name, value⟩ := entry
      obtain ⟨name_text, names⟩ := Spelled.string name
      obtain ⟨text, spells⟩ := each (name, value) (by simp)
      refine (ih fun other mem => each other (by simp [mem])).follow
        (name_text ++ (text ++ [','])) ?_
      intro rest stack
      rw [List.append_assoc, names, List.append_assoc, spells]
      rfl

end Spelled

mutual

theorem spelled : ∀ value : JsonValue, Spelled value
  | .null => ⟨['n'], fun _ _ => rfl⟩
  | .bool true => ⟨['t'], fun _ _ => rfl⟩
  | .bool false => ⟨['f'], fun _ _ => rfl⟩
  | .number value => .number value
  | .string text => .string text
  | .array values => .array (spelled_values values)
  | .object entries => .object (spelled_entries entries)

theorem spelled_values : ∀ values : List JsonValue, ∀ value ∈ values, Spelled value
  | [], _, mem => nomatch mem
  | head :: rest, value, mem =>
      (List.mem_cons.mp mem).elim (fun same => same ▸ spelled head)
        fun later => spelled_values rest value later

theorem spelled_entries : ∀ entries : Entries, ∀ entry ∈ entries, Spelled entry.2
  | [], _, mem => nomatch mem
  | (_, head) :: rest, entry, mem =>
      (List.mem_cons.mp mem).elim (fun same => same ▸ spelled head)
        fun later => spelled_entries rest entry later

end

namespace JwtAlgorithm

def name : JwtAlgorithm → String
  | .hs256 => "HS256"
  | .hs384 => "HS384"
  | .hs512 => "HS512"
  | .es256 => "ES256"
  | .es384 => "ES384"
  | .rs256 => "RS256"
  | .rs384 => "RS384"
  | .rs512 => "RS512"
  | .ps256 => "PS256"
  | .ps384 => "PS384"
  | .ps512 => "PS512"
  | .edDSA => "EdDSA"

def ofName (text : String) : Option JwtAlgorithm :=
  [.hs256, .hs384, .hs512, .es256, .es384, .rs256, .rs384, .rs512, .ps256, .ps384, .ps512,
    .edDSA].find? fun algorithm : JwtAlgorithm => algorithm.name == text

theorem ofName_name (algorithm : JwtAlgorithm) : ofName algorithm.name = some algorithm := by
  cases algorithm <;> rfl

end JwtAlgorithm

/-- The four values of a token, the payload last. -/
def spelledToken (token : String) : Option TableEntry :=
  match spell token.toList [] with
  | [payload, .string key, kid, .string alg] =>
      (JwtAlgorithm.ofName alg).map fun alg =>
        { header := { alg, kid := Json.string.read kid }, payload, key }
  | _ => none

theorem exists_spelledToken (entry : TableEntry) :
    ∃ token, spelledToken token = some entry := by
  obtain ⟨⟨alg, kid⟩, payload, key⟩ := entry
  have named : ∃ value, Spelled value ∧ Json.string.read value = kid := by
    cases kid with
    | none => exact ⟨.null, spelled .null, rfl⟩
    | some kid => exact ⟨.string kid, .string kid, rfl⟩
  obtain ⟨value, ⟨kid_text, kid_spells⟩, read⟩ := named
  obtain ⟨alg_text, alg_spells⟩ := Spelled.string alg.name
  obtain ⟨key_text, key_spells⟩ := Spelled.string key
  obtain ⟨payload_text, payload_spells⟩ := spelled payload
  refine ⟨.ofList (alg_text ++ (kid_text ++ (key_text ++ (payload_text ++ [])))), ?_⟩
  rw [spelledToken, String.toList_ofList, alg_spells, kid_spells, key_spells, payload_spells]
  simp only [spell, JwtAlgorithm.ofName_name, read, Option.map_some]

/-- A key is a name in a family; nothing is signed here. -/
def spelledLibrary : JwtLibrary where
  EncodingKey := Unit
  DecodingKey := AlgorithmFamily × String
  encodingKeyFromSecret _ := ()
  decodingKeyFromSecret secret := (.hmac, secret)
  encodingKeyFromRsaPem _ := none
  decodingKeyFromRsaPem pem := some (.rsa, pem)
  parseJwks _ := none
  parseRsaPublicKey _ := none
  encode _ _ _ := .error "nothing is signed"
  decodeHeader token := (spelledToken token).map (·.header)
  verify token key algorithms :=
    match spelledToken token with
    | none => .error .other
    | some entry =>
        if entry.header.alg ∈ algorithms ∧ (entry.header.alg.family, entry.key) = key then
          .ok entry.payload
        else .error .other
  validate := validateRegistered
  instant := tableInstant

theorem spelledLibrary_faithful : spelledLibrary.Faithful where
  instants _ := trivial
  header encoded := nomatch encoded
  payload encoded := nomatch encoded
  secret _ encoded := nomatch encoded
  keyPair _ encoded := nomatch encoded
  accepts := (tableLibrary_faithful []).accepts
  audience := (tableLibrary_faithful []).audience

theorem spelledLibrary_byFamily : spelledLibrary.ByFamily Prod.fst where
  fits := by
    intro token key algorithms payload header verified read
    obtain ⟨entry, spelt, rfl⟩ := Option.map_eq_some_iff.mp read
    simp only [spelledLibrary, spelt] at verified
    split at verified
    case isTrue opened => exact congrArg Prod.fst opened.2
    case isFalse => cases verified
  signs := by
    intro key header payload fitting
    obtain ⟨token, spelt⟩ := exists_spelledToken { header, payload, key := key.2 }
    refine ⟨token, ?_, fun algorithms listed => ?_⟩
    · simp [spelledLibrary, spelt]
    · simp only [spelledLibrary, spelt]
      exact if_pos ⟨listed, Prod.ext fitting rfl⟩

end AgqlAuth
