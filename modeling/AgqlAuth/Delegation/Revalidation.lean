import AgqlAuth.Service.Revalidate

/-!
# Revalidation narrows and never substitutes

Whatever the host answers, a revalidated principal is the accepted one with
some of its own grants, and the current principal it was compared with is the
same identity.
-/

namespace AgqlAuth

open Interaction Program

/-- The resolved principal is a current, ordinary state of the accepted identity. -/
structure StandsFor (accepted current : PrincipalReference) : Prop where
  kind : current.kind = accepted.kind
  subject : current.subject = accepted.subject
  sessionId : current.sessionId = accepted.sessionId
  sessionFamilyId : current.sessionFamilyId = accepted.sessionFamilyId
  tenantId : current.tenantId = accepted.tenantId
  sessionVersion : accepted.grantKind = some .sessionBoundDelegation ∨
    accepted.sessionVersion.isSome → current.sessionVersion = accepted.sessionVersion
  apiToken : ∀ principalKind, accepted.kind = .apiToken principalKind →
    current.tokenId = accepted.tokenId ∧ current.audience = accepted.audience ∧
      current.resourceType = accepted.resourceType ∧ current.resourceId = accepted.resourceId
  ordinary : current.grantKind ≠ some .sessionless ∧
    current.grantKind ≠ some .sessionBoundDelegation

theorem notOrdinary_eq_false {grantKind : Option AccessTokenGrantKind} :
    notOrdinary grantKind = false ↔
      grantKind ≠ some .sessionless ∧ grantKind ≠ some .sessionBoundDelegation := by
  simp [notOrdinary]

theorem expiredOrMissing_eq_false {expiresAt : Option OffsetDateTime} {now : OffsetDateTime} :
    expiredOrMissing expiresAt now = false ↔ ∃ expiry, expiresAt = some expiry ∧ now < expiry := by
  cases expiresAt with
  | none => simp [expiredOrMissing]
  | some expiry => simp [expiredOrMissing]

/-- A user session that matches is the same session, at the version the reference fixes. -/
theorem standsFor_of_matches_user {accepted : PrincipalReference} {session : AuthUser}
    (matched : accepted.matchesPrincipal (.user session) = true) :
    StandsFor accepted (AuthPrincipal.user session).reference := by
  cases kind : accepted.kind with
  | apiToken principalKind =>
      simp [PrincipalReference.matchesPrincipal, AuthPrincipal.reference, kind] at matched
  | userSession =>
      have sameKind : (AuthPrincipal.user session).reference.kind = accepted.kind := kind.symm
      have notApiToken : ∀ principalKind, accepted.kind ≠ .apiToken principalKind := by
        simp [kind]
      unfold PrincipalReference.matchesPrincipal at matched
      generalize (AuthPrincipal.user session).reference = current at *
      simp only [sameKind, kind] at matched
      split at matched
      case isTrue delegated =>
        simp only [Bool.and_eq_true, beq_iff_eq, Bool.not_eq_eq_eq_not, Bool.not_true] at matched
        obtain ⟨⟨⟨⟨⟨subject, sessionId⟩, family⟩, version⟩, tenant⟩, ordinary⟩ := matched
        exact {
          kind := sameKind
          subject := subject.symm
          sessionId := sessionId.symm
          sessionFamilyId := family.symm
          tenantId := tenant.symm
          sessionVersion := fun _ => version.symm
          apiToken := fun _ other => absurd other (notApiToken _)
          ordinary := notOrdinary_eq_false.mp ordinary }
      case isFalse notDelegated =>
        simp only [Bool.and_eq_true, beq_iff_eq, Bool.not_eq_eq_eq_not, Bool.not_true] at matched
        obtain ⟨⟨⟨⟨⟨⟨⟨⟨⟨⟨subject, sessionId⟩, family⟩, -⟩, ordinary⟩, version⟩, tenant⟩, -⟩, -⟩, -⟩,
          -⟩ := matched
        refine {
          kind := sameKind
          subject := subject.symm
          sessionId := sessionId.symm
          sessionFamilyId := family.symm
          tenantId := tenant.symm
          sessionVersion := ?_
          apiToken := fun _ other => absurd other (notApiToken _)
          ordinary := notOrdinary_eq_false.mp ordinary }
        rintro (delegated | versioned)
        · exact absurd delegated notDelegated
        · obtain ⟨known, fixed⟩ := Option.isSome_iff_exists.mp versioned
          rw [fixed] at version ⊢
          simpa using version

/-- An API token that matches the reference of an accepted principal is that token. -/
theorem standsFor_of_matches_apiToken {accepted : AuthPrincipal} {token : ApiTokenPrincipal}
    (matched : accepted.reference.matchesPrincipal (.apiToken token) = true) :
    StandsFor accepted.reference (AuthPrincipal.apiToken token).reference := by
  cases accepted with
  | user session => simp [PrincipalReference.matchesPrincipal, AuthPrincipal.reference] at matched
  | apiToken original =>
      simp only [PrincipalReference.matchesPrincipal, AuthPrincipal.reference, Bool.and_eq_true,
        beq_iff_eq] at matched
      obtain ⟨⟨⟨⟨⟨kind, subject⟩, tokenId⟩, audience⟩, resourceType⟩, resourceId⟩ := matched
      constructor <;> simp_all [AuthPrincipal.reference]

theorem standsFor_of_matches {accepted current : AuthPrincipal}
    (matched : accepted.reference.matchesPrincipal current = true) :
    StandsFor accepted.reference current.reference := by
  cases current with
  | user session => exact standsFor_of_matches_user matched
  | apiToken token => exact standsFor_of_matches_apiToken matched

namespace AuthPrincipal

def authorizationRoles : AuthPrincipal → List String
  | .user session => session.tokenClaims.authorizationRoles
  | .apiToken _ => []

/-- The same principal with other grants; an API token has scopes only. -/
def withGrants (self : AuthPrincipal) (roles scopes authorizationRoles : List String) :
    AuthPrincipal :=
  match self with
  | .user session => .user { session with
      roles, scopes, tokenClaims := { session.tokenClaims with authorizationRoles } }
  | .apiToken token => .apiToken { token with scopes }

/-- The grants the accepted principal keeps, in their order. -/
def narrowedTo (accepted current : AuthPrincipal) : AuthPrincipal :=
  accepted.withGrants (accepted.roles.filter (· ∈ current.roles))
    (accepted.scopes.filter (· ∈ current.scopes))
    (accepted.authorizationRoles.filter (· ∈ current.authorizationRoles))

@[simp]
theorem reference_withGrants (self : AuthPrincipal)
    (roles scopes authorizationRoles : List String) :
    (self.withGrants roles scopes authorizationRoles).reference = self.reference := by
  cases self with
  | user session => rfl
  | apiToken token => rfl

@[simp]
theorem reference_narrowedTo (accepted current : AuthPrincipal) :
    (accepted.narrowedTo current).reference = accepted.reference := by
  simp [narrowedTo]

theorem narrowedTo_narrowedTo (accepted current : AuthPrincipal) :
    (accepted.narrowedTo current).narrowedTo current = accepted.narrowedTo current := by
  cases accepted with
  | user session =>
      simp [narrowedTo, withGrants, roles, scopes, authorizationRoles, List.filter_filter]
  | apiToken token => simp [narrowedTo, withGrants, scopes, List.filter_filter]

end AuthPrincipal

theorem retainPresent_eq_filter (accepted current : List String) :
    retainPresent accepted current = accepted.filter (· ∈ current) :=
  List.filter_congr fun value _ => by simp

/-- What the narrowing compares of the two principals. -/
def Comparable : AuthPrincipal → AuthPrincipal → Prop
  | .user accepted, .user current =>
      ¬(accepted.tokenClaims.grantKind = some .sessionBoundDelegation ∧
          (blankOrMissing accepted.tokenClaims.sessionVersion ||
            blankOrMissing accepted.tokenClaims.sessionFamilyId)) ∧
        accepted.session.activeScope = current.session.activeScope
  | .apiToken _, .apiToken _ => True
  | _, _ => False

theorem narrowToCurrent_eq_ok {accepted current narrowed : AuthPrincipal} :
    narrowToCurrent accepted current = .ok narrowed ↔
      Comparable accepted current ∧ narrowed = accepted.narrowedTo current := by
  cases accepted with
  | user accepted =>
      cases current with
      | user current =>
          simp only [narrowToCurrent, retainPresent_eq_filter, Comparable,
            AuthPrincipal.narrowedTo, AuthPrincipal.withGrants]
          split
          · rename_i unproven
            constructor
            · rintro ⟨⟩
            · rintro ⟨⟨proven, -⟩, -⟩
              exact absurd unproven proven
          split
          · rename_i other
            constructor
            · rintro ⟨⟩
            · rintro ⟨⟨-, same⟩, -⟩
              exact absurd same other
          · rename_i proven same
            constructor
            · rintro ⟨⟩
              exact ⟨⟨proven, not_not.mp same⟩, rfl⟩
            · rintro ⟨-, rfl⟩
              rfl
      | apiToken current => simp [narrowToCurrent, Comparable]
  | apiToken accepted =>
      cases current with
      | user current => simp [narrowToCurrent, Comparable]
      | apiToken current =>
          simp only [narrowToCurrent, retainPresent_eq_filter, Comparable,
            AuthPrincipal.narrowedTo, AuthPrincipal.withGrants, true_and]
          constructor
          · rintro ⟨⟩
            rfl
          · rintro rfl
            rfl

/-- Narrowing leaves what it compares as it was. -/
theorem comparable_narrowedTo {accepted current : AuthPrincipal}
    (comparable : Comparable accepted current) :
    Comparable (accepted.narrowedTo current) current := by
  cases accepted with
  | user accepted =>
      cases current with
      | user current => exact comparable
      | apiToken current => exact comparable
  | apiToken accepted =>
      cases current with
      | user current => exact comparable
      | apiToken current => exact comparable

/-- The accepted credential is checked first, and identifies itself. -/
structure Presentable (accepted : PrincipalReference) (now : OffsetDateTime) : Prop where
  subject : (trim accepted.subject).isEmpty = false
  tokenId : blankOrMissing accepted.tokenId = false
  live : ∃ expiry, accepted.expiresAt = some expiry ∧ now < expiry

/-- What a successful revalidation has established about the resolver's answer. -/
structure Confirmed (accepted : AuthPrincipal) (resolved : ResolvedPrincipal)
    (now : OffsetDateTime) : Prop where
  presentable : Presentable accepted.reference now
  answers : resolved.matchesSensitiveReference accepted.reference = true
  live : ∃ expiry, resolved.principal.reference.expiresAt = some expiry ∧ now < expiry
  comparable : Comparable accepted resolved.principal

/-- The two answers of a revalidation that succeeds. -/
def confirmedBy (accepted : AuthPrincipal) (resolved : ResolvedPrincipal) :
    History authoritySignature :=
  [⟨.resolve accepted.reference, (.ok resolved : AuthResult ResolvedPrincipal)⟩,
    ⟨.checkStatus (statusRequest accepted), (.ok .active : AuthResult TokenStatus)⟩]

theorem Confirmed.standsFor {accepted : AuthPrincipal} {resolved : ResolvedPrincipal}
    {now : OffsetDateTime} (confirmed : Confirmed accepted resolved now) :
    StandsFor accepted.reference resolved.principal.reference := by
  have answers := confirmed.answers
  simp only [ResolvedPrincipal.matchesSensitiveReference, Bool.and_eq_true, beq_iff_eq] at answers
  have matched := resolved.matched
  rw [answers.1] at matched
  exact standsFor_of_matches matched

theorem Confirmed.narrowedTo {accepted : AuthPrincipal} {resolved : ResolvedPrincipal}
    {now : OffsetDateTime} (confirmed : Confirmed accepted resolved now) :
    Confirmed (accepted.narrowedTo resolved.principal) resolved now where
  presentable := by
    rw [AuthPrincipal.reference_narrowedTo]
    exact confirmed.presentable
  answers := by
    rw [AuthPrincipal.reference_narrowedTo]
    exact confirmed.answers
  live := confirmed.live
  comparable := comparable_narrowedTo confirmed.comparable

/-- What the answers of a finished revalidation were. -/
def Revalidates (accepted : AuthPrincipal) (now : OffsetDateTime)
    (h : History authoritySignature) (result : AuthResult AuthPrincipal) : Prop :=
  ∀ narrowed, result = .ok narrowed → ∃ resolved, h = confirmedBy accepted resolved ∧
    Confirmed accepted resolved now ∧ narrowed = accepted.narrowedTo resolved.principal

theorem Revalidates.error {accepted : AuthPrincipal} {now : OffsetDateTime}
    {h : History authoritySignature} (e : AuthError) : Revalidates accepted now h (.error e) := by
  intro narrowed returned
  cases returned

section Narrowing

attribute [local irreducible] trim

theorem revalidateSensitivePrincipal_upholds (accepted : AuthPrincipal) (now : OffsetDateTime) :
    Upholds (fun _ _ => True) (Revalidates accepted now) []
      (revalidateSensitivePrincipal accepted now) := by
  unfold revalidateSensitivePrincipal
  refine Fallible.Upholds.branch (fun _ => .error _) fun identified => ?_
  refine Fallible.Upholds.branch (fun _ => .error _) fun unexpired => ?_
  simp only [Bool.not_eq_true, Bool.or_eq_false_iff] at identified unexpired
  have presentable : Presentable accepted.reference now :=
    ⟨identified.1, identified.2, expiredOrMissing_eq_false.mp unexpired⟩
  refine Fallible.Upholds.bind (.await trivial fun status => ?_)
  cases status with
  | error e => exact .error e
  | ok status =>
      refine Fallible.Upholds.resume (Fallible.Upholds.lift_bind ?_ (fun e _ => .error e))
      rintro ⟨⟩ active
      obtain rfl : status = .active := by
        cases status with
        | active => rfl
        | revoked => cases active
        | expired => cases active
      refine Fallible.Upholds.bind (.await trivial fun answer => ?_)
      cases answer with
      | error e => exact .error e
      | ok resolved =>
          refine Fallible.Upholds.resume ?_
          refine Fallible.Upholds.branch (fun _ => .error _) fun answers => ?_
          refine Fallible.Upholds.branch (fun _ => .error _) fun live => ?_
          simp only [Bool.not_eq_true, Bool.not_eq_false'] at answers live
          rintro narrowed returned
          obtain ⟨comparable, rfl⟩ := narrowToCurrent_eq_ok.mp returned
          exact ⟨resolved, rfl,
            ⟨presentable, answers, expiredOrMissing_eq_false.mp live, comparable⟩, rfl⟩

/-- Answers that confirm a principal lead to its narrowing. -/
theorem Confirmed.path {accepted : AuthPrincipal} {resolved : ResolvedPrincipal}
    {now : OffsetDateTime} (confirmed : Confirmed accepted resolved now) :
    Path (revalidateSensitivePrincipal accepted now) (confirmedBy accepted resolved)
      (ret (.ok (accepted.narrowedTo resolved.principal))) := by
  have unexpired := expiredOrMissing_eq_false.mpr confirmed.presentable.live
  have live := expiredOrMissing_eq_false.mpr confirmed.live
  have narrowed : narrowToCurrent accepted resolved.principal = .ok _ :=
    narrowToCurrent_eq_ok.mpr ⟨confirmed.comparable, rfl⟩
  have attained : Attains
      (fun h result => h = confirmedBy accepted resolved ∧
        result = .ok (accepted.narrowedTo resolved.principal))
      [] (revalidateSensitivePrincipal accepted now) := by
    unfold revalidateSensitivePrincipal
    simp only [confirmed.presentable.subject, confirmed.presentable.tokenId, unexpired,
      Bool.or_self, Bool.false_eq_true, if_false]
    refine Fallible.Attains.bind ⟨(.ok .active : AuthResult TokenStatus), _, rfl, ?_⟩
    refine Fallible.Attains.lift_bind rfl ?_
    refine Fallible.Attains.bind ⟨(.ok resolved : AuthResult ResolvedPrincipal), _, rfl, ?_⟩
    rw [confirmed.answers, live, narrowed]
    exact ⟨rfl, rfl⟩
  obtain ⟨h, result, path, rfl, rfl⟩ := attained.path_of .start
  exact path

/--
A revalidation that returns a principal has asked for the status of the exact
accepted token and found it active, has resolved exactly its reference, and
returns the accepted principal with the grants the current principal still has;
asked again about what it returned, under the same answers, it returns the same.
-/
theorem sensitive_revalidation_narrows (accepted narrowed : AuthPrincipal) (now : OffsetDateTime)
    (h : History authoritySignature)
    (returned : Path (revalidateSensitivePrincipal accepted now) h (ret (.ok narrowed))) :
    ∃ resolved, h = confirmedBy accepted resolved ∧
      narrowed = accepted.narrowedTo resolved.principal ∧
      narrowed.reference = accepted.reference ∧
      (∃ expiry, accepted.reference.expiresAt = some expiry ∧ now < expiry) ∧
      (∃ expiry, resolved.principal.reference.expiresAt = some expiry ∧ now < expiry) ∧
      StandsFor accepted.reference resolved.principal.reference ∧
      Path (revalidateSensitivePrincipal narrowed now) (confirmedBy narrowed resolved)
        (ret (.ok narrowed)) := by
  obtain ⟨resolved, answered, confirmed, rfl⟩ :=
    (revalidateSensitivePrincipal_upholds accepted now).post_of_path returned _ rfl
  have again := confirmed.narrowedTo.path
  rw [AuthPrincipal.narrowedTo_narrowedTo] at again
  exact ⟨resolved, answered, rfl, AuthPrincipal.reference_narrowedTo accepted resolved.principal,
    confirmed.presentable.live, confirmed.live, confirmed.standsFor, again⟩

end Narrowing

def askedAt : OffsetDateTime := .atSecond 60

def readerSession (roles scopes : List String) (metadata : AccessTokenMetadata) : AuthUser where
  userId := "ada"
  sessionId := ⟨7⟩
  roles
  scopes
  session := .forAuthMethod .password
  tokenClaims := { metadata with
    sessionFamilyId := some "family"
    grantKind := some .userSession
    expiresAt := some (.atSecond 900) }

def acceptedReader : AuthPrincipal :=
  .user (readerSession ["reader", "auditor"] ["records.read", "records.list"] { jti := some "t1" })

/-- The session has lost a role and a scope since the token was issued, and gained others. -/
def currentReader : AuthPrincipal :=
  .user (readerSession ["auditor", "admin"] ["records.list", "records.*"]
    { sessionVersion := some "v2" })

def resolvedReader : ResolvedPrincipal where
  reference := acceptedReader.reference
  principal := currentReader
  resolvedAt := askedAt
  currentSessionAuthority := true
  matched := by decide

theorem reduced_session_narrows :
    ResolvedPrincipal.fromCurrentSession acceptedReader.reference currentReader
        askedAt = .ok resolvedReader ∧
      ∃ narrowed, Path (revalidateSensitivePrincipal acceptedReader askedAt)
          (confirmedBy acceptedReader resolvedReader) (ret (.ok narrowed)) ∧
        narrowed.roles = ["auditor"] ∧ narrowed.scopes = ["records.list"] ∧
        ∃ resolved, confirmedBy acceptedReader resolvedReader =
            confirmedBy acceptedReader resolved ∧
          narrowed = acceptedReader.narrowedTo resolved.principal ∧
          narrowed.reference = acceptedReader.reference ∧
          (∃ expiry, acceptedReader.reference.expiresAt = some expiry ∧
            askedAt < expiry) ∧
          (∃ expiry, resolved.principal.reference.expiresAt = some expiry ∧
            askedAt < expiry) ∧
          StandsFor acceptedReader.reference resolved.principal.reference ∧
          Path (revalidateSensitivePrincipal narrowed askedAt)
            (confirmedBy narrowed resolved) (ret (.ok narrowed)) := by
  have confirmed : Confirmed acceptedReader resolvedReader askedAt := {
    presentable := {
      subject := by decide
      tokenId := by decide
      live := ⟨_, rfl, by decide⟩ }
    answers := by decide
    live := ⟨_, rfl, by decide⟩
    comparable := by
      refine ⟨?_, rfl⟩
      rintro ⟨⟨⟩, -⟩ }
  refine ⟨rfl, _, confirmed.path, by decide, by decide, ?_⟩
  exact sensitive_revalidation_narrows acceptedReader _ _ _ confirmed.path

end AgqlAuth
