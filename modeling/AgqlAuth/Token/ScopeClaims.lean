import AgqlAuth.Token.Recovery
import Mathlib.Data.List.Sort

/-!
# The grammar of scope claims

Which `scope` claims parse, which scope lists can be issued, and when the two forms
of the claim agree.
-/

namespace AgqlAuth

/-- `0x21`, `0x23..=0x5b` and `0x5d..=0x7e`. -/
def ScopeByte (byte : UInt8) : Prop :=
  byte.toNat = 0x21 ∨ 0x23 ≤ byte.toNat ∧ byte.toNat ≤ 0x5b ∨
    0x5d ≤ byte.toNat ∧ byte.toNat ≤ 0x7e

structure ScopeToken (token : String) : Prop where
  present : 1 ≤ token.utf8ByteSize
  short : token.utf8ByteSize ≤ 512
  bytes : ∀ byte ∈ token.toUTF8.data.toList, ScopeByte byte

/-- At most 256 tokens that take at most 16384 bytes once they are joined. -/
structure ScopeTokens (tokens : List String) : Prop where
  count : tokens.length ≤ 256
  each : ∀ token ∈ tokens, ScopeToken token
  joined : (" ".intercalate tokens).utf8ByteSize ≤ 16384

theorem toUTF8_toList (text : String) :
    text.toUTF8.data.toList = text.toList.flatMap String.utf8EncodeChar := by
  have encoded : text.toUTF8 = text.toList.utf8Encode := String.utf8Encode_toList.symm
  rw [encoded, List.utf8Encode, List.data_toByteArray]

/-- A character is allowed exactly when all its bytes are: those of a longer one are not. -/
theorem validScopeChar_iff {c : Char} :
    validScopeChar c = true ↔ ∀ byte ∈ String.utf8EncodeChar c, ScopeByte byte := by
  have value : c.toNat = c.val.toNat := rfl
  simp only [validScopeChar, Bool.or_eq_true, Bool.and_eq_true, beq_iff_eq, decide_eq_true_eq,
    value, ScopeByte]
  unfold String.utf8EncodeChar
  dsimp only
  split
  case isTrue ascii =>
    have same : (UInt8.ofNat c.val.toNat).toNat = c.val.toNat := by
      rw [UInt8.toNat_ofNat']
      omega
    rw [List.forall_mem_singleton, same, or_assoc]
  case isFalse wide =>
    have beyond : ¬(c.val.toNat = 0x21 ∨ 0x23 ≤ c.val.toNat ∧ c.val.toNat ≤ 0x5b ∨
        0x5d ≤ c.val.toNat ∧ c.val.toNat ≤ 0x7e) := by omega
    rw [or_assoc]
    refine iff_of_false beyond fun allowed => ?_
    split at allowed
    case isTrue =>
      have first := allowed _ List.mem_cons_self
      rw [UInt8.toNat_ofNat'] at first
      omega
    case isFalse =>
      split at allowed
      case isTrue =>
        have first := allowed _ List.mem_cons_self
        rw [UInt8.toNat_ofNat'] at first
        omega
      case isFalse =>
        have first := allowed _ List.mem_cons_self
        rw [UInt8.toNat_ofNat'] at first
        omega

theorem validScopeToken_iff {token : String} :
    validScopeToken token = true ↔ ScopeToken token := by
  have bytes : token.toList.all validScopeChar = true ↔
      ∀ byte ∈ token.toUTF8.data.toList, ScopeByte byte := by
    rw [toUTF8_toList, List.all_eq_true]
    simp only [validScopeChar_iff, List.mem_flatMap]
    constructor
    · rintro each byte ⟨c, mem, encoded⟩
      exact each c mem byte encoded
    · intro each c mem byte encoded
      exact each byte ⟨c, mem, encoded⟩
  have present : token.isEmpty = false ↔ 1 ≤ token.utf8ByteSize := by
    rw [Bool.eq_false_iff, Ne, String.isEmpty_iff, Nat.one_le_iff_ne_zero, Ne,
      String.utf8ByteSize_eq_zero_iff]
  simp only [validScopeToken, Bool.and_eq_true, Bool.not_eq_true', decide_eq_true_eq, present,
    bytes]
  exact ⟨fun valid => ⟨valid.1.1, valid.1.2, valid.2⟩,
    fun token => ⟨⟨token.present, token.short⟩, token.bytes⟩⟩

theorem validScopeSet_iff {tokens : List String} :
    validScopeSet tokens = true ↔ ScopeTokens tokens := by
  simp only [validScopeSet, Bool.and_eq_true, decide_eq_true_eq, List.all_eq_true,
    validScopeToken_iff, ← utf8ByteSize_intercalate]
  exact ⟨fun valid => ⟨valid.1.1, valid.1.2, valid.2⟩,
    fun tokens => ⟨⟨tokens.count, tokens.each⟩, tokens.joined⟩⟩

theorem intercalate_splitAtChar (value : String) :
    " ".intercalate (splitAtChar value ' ') = value := by
  apply String.toList_injective
  rw [String.toList_intercalate, splitAtChar, List.map_map]
  simp [Function.comp_def]

theorem parseStandardScope_of_tokens {tokens : List String} (nonempty : tokens ≠ [])
    (valid : ScopeTokens tokens) :
    parseStandardScope (" ".intercalate tokens) = .ok (dedupeStable tokens) := by
  have each : ∀ token ∈ tokens, validScopeToken token = true :=
    fun token mem => validScopeToken_iff.mpr (valid.each token mem)
  have joined : ¬maxAccessTokenScopeClaimLength < (" ".intercalate tokens).utf8ByteSize :=
    not_lt.mpr valid.joined
  simp [parseStandardScope, intercalate_ne_empty nonempty each, joined,
    splitAtChar_scopes nonempty each, validScopeSet_iff.mpr valid]

/-- What is parsed is a list of tokens between single spaces. -/
theorem tokens_of_parseStandardScope {value : String} {parsed : List String}
    (accepted : parseStandardScope value = .ok parsed) :
    ScopeTokens (splitAtChar value ' ') ∧ parsed = dedupeStable (splitAtChar value ' ') := by
  unfold parseStandardScope at accepted
  split at accepted
  case isTrue => cases accepted
  case isFalse =>
    dsimp only at accepted
    split at accepted
    case isTrue valid =>
      cases accepted
      exact ⟨validScopeSet_iff.mp valid, rfl⟩
    case isFalse => cases accepted

theorem parseStandardScope_isOk {value : String} :
    (∃ parsed, parseStandardScope value = .ok parsed) ↔
      ∃ tokens, 1 ≤ tokens.length ∧ ScopeTokens tokens ∧ " ".intercalate tokens = value := by
  constructor
  · rintro ⟨parsed, accepted⟩
    refine ⟨splitAtChar value ' ', ?_, (tokens_of_parseStandardScope accepted).1,
      intercalate_splitAtChar value⟩
    rw [splitAtChar, List.length_map]
    exact List.length_pos_iff.mpr (List.splitOn_ne_nil ' ' value.toList)
  · rintro ⟨tokens, nonempty, valid, rfl⟩
    exact ⟨_, parseStandardScope_of_tokens (List.length_pos_iff.mp nonempty) valid⟩

theorem issuedScopeClaims_isOk {scopes : List String} {format : AccessTokenScopeClaimFormat} :
    (∃ issued, issuedScopeClaims scopes format = .ok issued) ↔ ScopeTokens scopes := by
  rw [← validScopeSet_iff]
  cases valid : validScopeSet scopes <;> simp [issuedScopeClaims, valid]

/-- Issued claims are read back without their repetitions. -/
theorem parseAccessTokenScopes_of_issued {claims : AccessTokenClaims} {scopes : List String}
    {format : AccessTokenScopeClaimFormat}
    (issued : issuedScopeClaims scopes format = .ok (claims.scope, claims.legacyScopes)) :
    parseAccessTokenScopes claims .accept = .ok (dedupeStable scopes) := by
  have valid : ScopeTokens scopes := issuedScopeClaims_isOk.mp ⟨_, issued⟩
  have set := validScopeSet_iff.mpr valid
  simp only [issuedScopeClaims, set, Bool.not_true, Bool.false_eq_true, if_false, Except.ok.injEq]
    at issued
  obtain ⟨scope, legacyScopes⟩ := Prod.mk.inj issued.symm
  unfold parseAccessTokenScopes
  rw [scope, legacyScopes]
  cases format with
  | standard =>
      by_cases empty : scopes = []
      · subst empty
        rfl
      · rw [if_neg (by simpa using empty), Option.mapM_some,
          parseStandardScope_of_tokens empty valid]
        rfl
  | legacyArray =>
      simp only [Option.mapM_none, parseLegacyScopes, if_pos set]
      rfl

/-- `Vec::dedup`: of equal neighbours the first is kept. -/
def dropRepeats : List String → List String
  | [] => []
  | first :: rest =>
      match rest with
      | [] => [first]
      | second :: _ => if first = second then dropRepeats rest else first :: dropRepeats rest

/-- `canonical_scopes`: sorted, without repetitions. -/
def canonicalScopes (scopes : List String) : List String :=
  dropRepeats (scopes.mergeSort (· ≤ ·))

theorem mem_dropRepeats {value : String} {values : List String} :
    value ∈ dropRepeats values ↔ value ∈ values := by
  induction values with
  | nil => rfl
  | cons first rest ih =>
      cases rest with
      | nil => rfl
      | cons second others =>
          unfold dropRepeats
          dsimp only
          split
          case isTrue same =>
            rw [ih, same]
            simp
          case isFalse => rw [List.mem_cons, ih, List.mem_cons, List.mem_cons, List.mem_cons]

theorem dropRepeats_ascending {values : List String} (sorted : values.Pairwise (· ≤ ·)) :
    (dropRepeats values).Pairwise (· < ·) := by
  induction values with
  | nil => exact .nil
  | cons first rest ih =>
      cases rest with
      | nil => simp [dropRepeats]
      | cons second others =>
          obtain ⟨least, sorted⟩ := List.pairwise_cons.mp sorted
          unfold dropRepeats
          dsimp only
          split
          case isTrue => exact ih sorted
          case isFalse different =>
            refine List.pairwise_cons.mpr ⟨fun value mem => ?_, ih sorted⟩
            have below : first < second := lt_of_le_of_ne (least second (by simp)) different
            rcases List.mem_cons.mp (mem_dropRepeats.mp mem) with rfl | mem
            · exact below
            · exact below.trans_le ((List.pairwise_cons.mp sorted).1 value mem)

theorem canonicalScopes_ascending (scopes : List String) :
    (canonicalScopes scopes).Pairwise (· < ·) := by
  apply dropRepeats_ascending
  exact List.pairwise_mergeSort' (· ≤ ·) scopes

theorem mem_canonicalScopes {scope : String} {scopes : List String} :
    scope ∈ canonicalScopes scopes ↔ scope ∈ scopes := by
  rw [canonicalScopes, mem_dropRepeats, List.mem_mergeSort]

theorem sameScopes_iff_members {standard legacy : List String} :
    sameScopes standard legacy = true ↔ ∀ scope, scope ∈ standard ↔ scope ∈ legacy := by
  simp only [sameScopes, Bool.and_eq_true, List.all_eq_true, List.contains_iff_mem]
  exact ⟨fun both scope => ⟨both.1 scope, both.2 scope⟩,
    fun same => ⟨fun scope => (same scope).mp, fun scope => (same scope).mpr⟩⟩

/-- The comparison of the two claims is the one of the source: canonical lists are equal. -/
theorem sameScopes_iff_canonical {standard legacy : List String} :
    sameScopes standard legacy = true ↔ canonicalScopes standard = canonicalScopes legacy := by
  rw [sameScopes_iff_members]
  constructor
  · intro same
    have ascending := canonicalScopes_ascending standard
    have ascending' := canonicalScopes_ascending legacy
    apply List.Perm.eq_of_pairwise' ascending ascending'
    rw [List.perm_ext_iff_of_nodup (ascending.imp ne_of_lt) (ascending'.imp ne_of_lt)]
    intro scope
    rw [mem_canonicalScopes, mem_canonicalScopes, same scope]
  · intro same scope
    rw [← mem_canonicalScopes, same, mem_canonicalScopes]

/-- A token with both claims parses when the two agree and the second is still allowed. -/
theorem parseAccessTokenScopes_both {claims : AccessTokenClaims} {policy : LegacyScopeClaims}
    {scope : String} {legacyScopes : List String} (standard : claims.scope = some scope)
    (legacy : claims.legacyScopes = some legacyScopes) :
    (∃ parsed, parseAccessTokenScopes claims policy = .ok parsed) ↔
      policy ≠ .reject ∧ ∃ first second, parseStandardScope scope = .ok first ∧
        parseLegacyScopes legacyScopes = .ok second ∧
        canonicalScopes first = canonicalScopes second := by
  unfold parseAccessTokenScopes
  rw [standard, legacy, Option.mapM_some]
  cases first_eq : parseStandardScope scope with
  | error e => simp [Except.map, Functor.map, bind, Except.bind]
  | ok first =>
      by_cases rejecting : policy = .reject
      · simp [rejecting, Functor.map, Except.map, bind, Except.bind, throw, throwThe,
          MonadExceptOf.throw]
      · cases second_eq : parseLegacyScopes legacyScopes with
        | error e => simp [rejecting, second_eq, Functor.map, Except.map, bind, Except.bind]
        | ok second =>
            by_cases same : sameScopes first second = true
            · simp [rejecting, second_eq, Functor.map, Except.map, bind, Except.bind, same,
                sameScopes_iff_canonical.mp same, pure, Except.pure]
            · have different : canonicalScopes first ≠ canonicalScopes second :=
                fun equal => same (sameScopes_iff_canonical.mpr equal)
              simp [rejecting, second_eq, Functor.map, Except.map, bind, Except.bind, same, different,
                throw, throwThe, MonadExceptOf.throw]

theorem mem_of_parseStandardScope {value scope : String} {parsed : List String}
    (accepted : parseStandardScope value = .ok parsed) :
    scope ∈ parsed ↔ scope ∈ splitAtChar value ' ' := by
  rw [(tokens_of_parseStandardScope accepted).2, mem_dedupeStable]

theorem parseLegacyScopes_ok {scopes parsed : List String} :
    parseLegacyScopes scopes = .ok parsed ↔ ScopeTokens scopes ∧ parsed = dedupeStable scopes := by
  rw [← validScopeSet_iff]
  cases valid : validScopeSet scopes <;> simp [parseLegacyScopes, valid, eq_comm]

theorem canonicalScopes_eq_iff {standard legacy : List String} :
    canonicalScopes standard = canonicalScopes legacy ↔
      ∀ scope, scope ∈ standard ↔ scope ∈ legacy := by
  rw [← sameScopes_iff_canonical]
  exact sameScopes_iff_members

/--
A `scope` claim parses exactly when it is a list of tokens between single spaces;
scopes can be issued exactly when they are such tokens, and are then read back
without repetitions; and of a token with both claims both must parse to one set.
-/
theorem scope_claim_grammar :
    (∀ value, (∃ parsed, parseStandardScope value = .ok parsed) ↔
      ∃ tokens, 1 ≤ tokens.length ∧ ScopeTokens tokens ∧ " ".intercalate tokens = value) ∧
    (∀ scopes format,
      ((∃ issued, issuedScopeClaims scopes format = .ok issued) ↔
        scopes = [] ∨ ScopeTokens scopes) ∧
      ∀ claims : AccessTokenClaims,
        issuedScopeClaims scopes format = .ok (claims.scope, claims.legacyScopes) →
          parseAccessTokenScopes claims .accept = .ok (dedupeStable scopes)) ∧
    ∀ (claims : AccessTokenClaims) policy scope legacyScopes,
      claims.scope = some scope → claims.legacyScopes = some legacyScopes →
        ((∃ parsed, parseAccessTokenScopes claims policy = .ok parsed) ↔
          policy ≠ .reject ∧ (∃ first, parseStandardScope scope = .ok first) ∧
            (∃ second, parseLegacyScopes legacyScopes = .ok second) ∧
            ∀ token, token ∈ splitAtChar scope ' ' ↔ token ∈ legacyScopes) := by
  refine ⟨fun value => parseStandardScope_isOk, fun scopes format => ⟨?_, fun claims issued =>
    parseAccessTokenScopes_of_issued issued⟩, ?_⟩
  · rw [issuedScopeClaims_isOk]
    constructor
    · exact .inr
    · rintro (rfl | valid)
      · exact ⟨by decide, by simp, by decide⟩
      · exact valid
  · intro claims policy scope legacyScopes standard legacy
    rw [parseAccessTokenScopes_both standard legacy]
    constructor
    · rintro ⟨allowed, first, second, first_eq, second_eq, same⟩
      refine ⟨allowed, ⟨first, first_eq⟩, ⟨second, second_eq⟩, fun token => ?_⟩
      have members := canonicalScopes_eq_iff.mp same token
      rwa [mem_of_parseStandardScope first_eq, (parseLegacyScopes_ok.mp second_eq).2,
        mem_dedupeStable] at members
    · rintro ⟨allowed, ⟨first, first_eq⟩, ⟨second, second_eq⟩, same⟩
      refine ⟨allowed, first, second, first_eq, second_eq, canonicalScopes_eq_iff.mpr ?_⟩
      intro token
      rw [mem_of_parseStandardScope first_eq, (parseLegacyScopes_ok.mp second_eq).2,
        mem_dedupeStable]
      exact same token

/-- The claims list one set of scopes, the first in another order and with a repetition. -/
def migratedClaims : AccessTokenClaims :=
  (AuthService.bare .default).accessTokenClaims
    { userId := "ada", sessionId := ⟨7⟩, roles := [], scopes := [], session := {}, tokenClaims := {} }
    (some "read write read") (some ["write", "read"]) (.atSecond 0) (.atSecond 60) "app"

theorem migratedClaims_parse :
    ∃ parsed, parseAccessTokenScopes migratedClaims .accept = .ok parsed := by
  have split : splitAtChar "read write read" ' ' = ["read", "write", "read"] := by decide +kernel
  have allowed : LegacyScopeClaims.accept ≠ .reject := by decide
  apply (scope_claim_grammar.2.2 migratedClaims .accept "read write read" ["write", "read"] rfl
    rfl).mpr
  refine ⟨allowed, ⟨["read", "write"], by decide +kernel⟩, ⟨["write", "read"], by decide +kernel⟩,
    fun token => ?_⟩
  rw [split]
  simp only [List.mem_cons, List.not_mem_nil, or_false]
  tauto

end AgqlAuth
