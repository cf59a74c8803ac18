import AgqlAuth.Base.Text
import AgqlAuth.Json.Equality
import AgqlAuth.Token.Library
import AgqlAuth.Token.Wire

/-!
# A library that signs what a table lists

The smallest faithful library: it signs the payloads of a table, each under the
key the table names, and reads back exactly those.
-/

namespace AgqlAuth

open Json

deriving instance DecidableEq for JwtHeader

structure TableEntry where
  header : JwtHeader
  payload : JsonValue
  key : String
  deriving DecidableEq

def claimsIssuer (entries : Entries) (issuers : List String) : Bool :=
  match occurrences "iss" entries with
  | [.string issuer] => issuers.contains issuer
  | _ => false

def claimsAudience (entries : Entries) (audiences : List String) : Bool :=
  match occurrences "aud" entries with
  | [.string audience] => audiences.contains audience
  | [.array values] => audiences.any fun audience => decide (.string audience ∈ values)
  | _ => false

def claimsUnexpired (entries : Entries) (now : Int) : Bool :=
  match occurrences "exp" entries with
  | [.number seconds] => (readI64 seconds).any fun exp => decide (now ≤ exp)
  | _ => false

def validateRegistered (validation : Validation) (now : Int) (payload : JsonValue) :
    Except JwtErrorKind Unit :=
  match payload with
  | .object entries =>
      if validation.requiredSpecClaims.any fun name => (occurrences name entries).isEmpty then
        .error .other
      else if validation.validateExp && !claimsUnexpired entries (now - validation.leeway) then
        .error .expiredSignature
      else if validation.iss.any fun issuers => !claimsIssuer entries issuers then .error .other
      else if validation.validateAud &&
          validation.aud.any fun audiences => !claimsAudience entries audiences then .error .other
      else .ok ()
  | _ => .error .other

theorem namesAudience_of_claims {entries : Entries} {audiences : List String}
    (claims : claimsAudience entries audiences = true) :
    ∃ audience ∈ audiences, NamesAudience entries audience := by
  unfold claimsAudience at claims
  split at claims
  · rename_i audience named
    exact ⟨audience, by simpa using claims, .inl named⟩
  · rename_i values named
    obtain ⟨audience, mem, listed⟩ := List.any_eq_true.mp claims
    exact ⟨audience, mem, .inr ⟨values, named, of_decide_eq_true listed⟩⟩
  · cases claims

theorem validateRegistered_of_meets {validation : Validation} {entries : Entries} {exp : Int}
    (now : Int) (meets : Meets validation entries exp) :
    validateRegistered validation now (.object entries) = .ok () := by
  obtain ⟨issuers, iss, issuer, issuer_mem, issuer_eq⟩ := meets.issuer
  obtain ⟨audiences, aud, audience, audience_mem, audience_eq⟩ := meets.audience
  obtain ⟨subject, subject_eq⟩ := meets.subject
  have expiry_eq := meets.expiry
  obtain ⟨issuedAt, issuedAt_eq⟩ := meets.issuedAt
  have present : (validation.requiredSpecClaims.any fun name =>
      (occurrences name entries).isEmpty) = false := by
    rw [List.any_eq_false]
    intro name required
    have known := meets.required name required
    simp only [List.mem_cons, List.not_mem_nil, or_false] at known
    rcases known with rfl | rfl | rfl | rfl | rfl
    all_goals simp [*]
  simp [validateRegistered, present, meets.untimed.1, iss, aud, claimsIssuer, issuer_eq, issuer_mem,
    claimsAudience, audience_eq, audience_mem]

/-- Tokens are told apart by their length. -/
def tableToken (i : Nat) : String := .ofList (List.replicate i 't')

/-- An instant as its second and the nanoseconds after it. -/
def tableInstant : Codec OffsetDateTime where
  write t := .array [i64.write t.unixTimestamp, i64.write (t.unixNanos % nanosPerSecond)]
  read
    | .array [seconds, nanos] =>
        match i64.read seconds, i64.read nanos with
        | some seconds, some nanos =>
            if h : minUnixNanos ≤ seconds * nanosPerSecond + nanos ∧
                seconds * nanosPerSecond + nanos ≤ maxUnixNanos then
              some ⟨seconds * nanosPerSecond + nanos, h.1, h.2⟩
            else none
        | _, _ => none
    | _ => none
  Fits _ := True
  read_write := by
    intro t _
    have whole : t.unixTimestamp * nanosPerSecond + t.unixNanos % nanosPerSecond = t.unixNanos := by
      rw [Int.mul_comm]
      exact Int.mul_ediv_add_emod t.unixNanos nanosPerSecond
    have lower := t.lower
    have upper := t.upper
    have second := fitsI64_unixTimestamp t
    have rest : FitsI64 (t.unixNanos % nanosPerSecond) := by
      simp only [FitsI64, nanosPerSecond]
      omega
    simp only [i64.read_write second, i64.read_write rest, whole]
    rw [dif_pos ⟨lower, upper⟩]
  write_ne_null _ := nofun

/-- The pair of an RSA key is named after its two PEM texts. -/
def tableLibrary (table : List TableEntry) : JwtLibrary where
  EncodingKey := String
  DecodingKey := String
  encodingKeyFromSecret := id
  decodingKeyFromSecret := id
  encodingKeyFromRsaPem pem := stripPrefix pem "private "
  decodingKeyFromRsaPem pem := stripPrefix pem "public "
  parseJwks _ := none
  parseRsaPublicKey _ := some ⟨[1], [3]⟩
  encode header payload key :=
    match table.idxOf? ⟨header, payload, key⟩ with
    | some i => .ok (tableToken i)
    | none => .error "payload not listed"
  decodeHeader token := table[token.length]?.map (·.header)
  verify token key algorithms :=
    match table[token.length]? with
    | none => .error .other
    | some entry =>
        if entry.header.alg ∈ algorithms ∧ entry.key = key then .ok entry.payload
        else .error .other
  validate := validateRegistered
  instant := tableInstant

section Faithful

variable {table : List TableEntry} {header : JwtHeader} {payload read : JsonValue}
variable {key key' token : String}

theorem table_of_encode (encoded : (tableLibrary table).encode header payload key = .ok token) :
    table[token.length]? = some ⟨header, payload, key⟩ := by
  simp only [tableLibrary] at encoded
  split at encoded
  · rename_i i found
    cases encoded
    obtain ⟨bound, listed, -⟩ := List.idxOf?_eq_some_iff.mp found
    have length : (tableToken i).length = i := by
      simp [tableToken, ← String.length_toList]
    rw [length, List.getElem?_eq_getElem bound]
    exact congrArg some (by simpa using listed)
  · cases encoded

/-- A token has one payload. -/
theorem payload_of_token {header' : JwtHeader} {payload' : JsonValue}
    (encoded : (tableLibrary table).encode header payload key = .ok token)
    (encoded' : (tableLibrary table).encode header' payload' key' = .ok token) :
    payload = payload' := by
  have listed := (table_of_encode encoded).symm.trans (table_of_encode encoded')
  cases listed
  rfl

theorem table_of_verify {algorithms : List JwtAlgorithm} {entry : TableEntry}
    (listed : table[token.length]? = some entry)
    (verified : (tableLibrary table).verify token key algorithms = .ok read) :
    entry.key = key ∧ read = entry.payload := by
  simp only [tableLibrary, listed] at verified
  split at verified
  · rename_i opened
    exact ⟨opened.2, (Except.ok.inj verified).symm⟩
  · cases verified

theorem verify_of_table {algorithms : List JwtAlgorithm} {entry : TableEntry}
    (listed : table[token.length]? = some entry) (allowed : entry.header.alg ∈ algorithms) :
    (tableLibrary table).verify token entry.key algorithms = .ok entry.payload := by
  simp [tableLibrary, listed, allowed]

theorem tableLibrary_readsExpiry (table : List TableEntry) (exp : Int) :
    (tableLibrary table).ReadsExpiry exp :=
  fun _ now _ => validateRegistered_of_meets now

theorem tableLibrary_faithful (table : List TableEntry) : (tableLibrary table).Faithful where
  instants _ := trivial
  header encoded := by
    simp [tableLibrary, table_of_encode encoded]
  payload encoded verified := (table_of_verify (table_of_encode encoded) verified).2
  secret := by
    intro header payload secret token alg encoded
    exact ⟨payload, verify_of_table (table_of_encode encoded) (by simp [alg])⟩
  keyPair := by
    intro key key' header header' payload payload' token token' read _ encoded verified alg' encoded'
    have same := (table_of_verify (table_of_encode encoded) verified).1
    have opened : (tableLibrary table).verify token' key [.rs256] = .ok payload' :=
      verify_of_table (table_of_encode encoded') (by simp [alg'])
    exact ⟨payload', same ▸ opened⟩
  accepts _ := tableLibrary_readsExpiry table _
  audience := by
    intro validation now entries audiences checked _ aud valid
    simp only [tableLibrary, validateRegistered, checked, aud] at valid
    split at valid
    · cases valid
    split at valid
    · cases valid
    split at valid
    · cases valid
    split at valid
    · cases valid
    rename_i named
    exact namesAudience_of_claims (by simpa using named)

end Faithful

end AgqlAuth
