import AgqlAuth.Interaction.Simulation
import AgqlAuth.Interaction.Standing
import AgqlAuth.OAuth.ExternalIdentity
import AgqlAuth.OAuth.LoginCalls

/-!
# One external identity, one user

Logins interleave over one store of links that keeps the provider name and the
external subject unique.  An identity stays with the user it was first linked to,
so that no later login with it opens a session of somebody else.
-/

namespace AgqlAuth

open Interaction Program

/-- What a link is stored under. -/
structure IdentityKey where
  providerName : String
  externalSubject : String
  deriving DecidableEq

def ValidatedOidcClaims.key (self : ValidatedOidcClaims) : IdentityKey :=
  ⟨self.providerName, self.externalSubject⟩

def ExternalIdentity.key (self : ExternalIdentity) : IdentityKey :=
  ⟨self.providerName, self.externalSubject⟩

/-- The links by what they are stored under. -/
abbrev LinkWorld := IdentityKey → Option ExternalIdentity

namespace LinkWorld

def link (w : LinkWorld) (identity : ExternalIdentity) : LinkWorld :=
  Function.update w identity.key (some identity)

def touch (w : LinkWorld) (key : IdentityKey) (updatedAt : OffsetDateTime) : LinkWorld :=
  Function.update w key ((w key).map fun identity => { identity with updatedAt })

/-- The user that an identity is linked to. -/
def owner (w : LinkWorld) (key : IdentityKey) : Option String := (w key).map (·.userId)

theorem owner_link_self (w : LinkWorld) (identity : ExternalIdentity) :
    (w.link identity).owner identity.key = some identity.userId := by
  simp [owner, link]

theorem owner_link_ne {w : LinkWorld} {identity : ExternalIdentity} {key : IdentityKey}
    (apart : key ≠ identity.key) : (w.link identity).owner key = w.owner key := by
  simp [owner, link, apart]

@[simp]
theorem owner_touch (w : LinkWorld) (key other : IdentityKey) (updatedAt : OffsetDateTime) :
    (w.touch key updatedAt).owner other = w.owner other := by
  by_cases same : other = key
  · subst same
    cases known : w other <;> simp [owner, touch, known]
  · simp [owner, touch, same]

/-- A link is stored only where there is none, so that owners stay. -/
theorem owner_link {w : LinkWorld} {identity : ExternalIdentity} {key : IdentityKey}
    {userId : String} (free : w identity.key = none) (owned : w.owner key = some userId) :
    (w.link identity).owner key = some userId := by
  have apart : key ≠ identity.key := by
    rintro rfl
    simp [owner, free] at owned
  rw [owner_link_ne apart, owned]

end LinkWorld

/-- What an operation may answer and do; an error may hide a committed write. -/
def LinkEffect (w : LinkWorld) :
    (op : loginSignature.Op) → loginSignature.Resp op → LinkWorld → Prop
  | .inr (.inr (.findExternalIdentity providerName externalSubject)), resp, w' =>
      w' = w ∧ match (resp : AuthResult (Option ExternalIdentity)) with
        | .ok existing => existing = w ⟨providerName, externalSubject⟩
        | .error _ => True
  | .inr (.inr (.linkExternalIdentity identity)), resp, w' =>
      match (resp : AuthResult Unit) with
      | .ok () => w identity.key = none ∧ w' = w.link identity
      | .error _ => w' = w ∨ w identity.key = none ∧ w' = w.link identity
  | .inr (.inr (.updateExternalIdentityClaimsSnapshot providerName externalSubject updatedAt)),
      resp, w' =>
      match (resp : AuthResult Unit) with
      | .ok () => w' = w.touch ⟨providerName, externalSubject⟩ updatedAt
      | .error _ => w' = w ∨ w' = w.touch ⟨providerName, externalSubject⟩ updatedAt
  | _, _, w' => w' = w

/-- Any store of links that treats provider name and external subject as unique. -/
def externalIdentityStore : Shared loginSignature where
  State := LinkWorld
  init := fun _ => none
  Effect := LinkEffect

/-- That an identity belongs to a user. -/
structure Ownership where
  key : IdentityKey
  userId : String

/-- The login asks for a link to the user. -/
def RequestsLink : LoginEvent → Ownership → Prop
  | ⟨.inr (.inr (.linkExternalIdentity identity)), _⟩, fact =>
      identity.key = fact.key ∧ identity.userId = fact.userId
  | _, _ => False

/-- The store confirms the owner. -/
def ConfirmsOwner : LoginEvent → Ownership → Prop
  | ⟨.inr (.inr (.findExternalIdentity providerName externalSubject)),
      (.ok (some identity) : AuthResult (Option ExternalIdentity))⟩, fact =>
      fact = ⟨⟨providerName, externalSubject⟩, identity.userId⟩
  | ⟨.inr (.inr (.linkExternalIdentity identity)), (.ok () : AuthResult Unit)⟩, fact =>
      fact = ⟨identity.key, identity.userId⟩
  | _, _ => False

section Owners

variable {w w' : LinkWorld} {op : loginSignature.Op} {resp : loginSignature.Resp op}
variable {fact : Ownership}

/-- An operation links where there was no link, touches a link, or does nothing. -/
theorem LinkEffect.changes (effect : LinkEffect w op resp w') :
    w' = w ∨
      (∃ identity, op = .inr (.inr (.linkExternalIdentity identity)) ∧
        w identity.key = none ∧ w' = w.link identity) ∨
      ∃ key updatedAt, w' = w.touch key updatedAt := by
  rcases op with op | op | op
  · exact .inl effect
  · exact .inl effect
  · cases op with
    | findExternalIdentity => exact .inl effect.1
    | linkExternalIdentity identity =>
        rcases resp with e | ⟨⟩
        · exact effect.imp id fun linked => .inl ⟨identity, rfl, linked⟩
        · exact .inr (.inl ⟨identity, rfl, effect⟩)
    | updateExternalIdentityClaimsSnapshot =>
        rcases resp with e | ⟨⟩
        · exact effect.imp id fun touched => .inr ⟨_, _, touched⟩
        · exact .inr (.inr ⟨_, _, effect⟩)
    | mapClaims | resolveExternalUser => exact .inl effect

theorem owner_origin (effect : LinkEffect w op resp w')
    (owned : w'.owner fact.key = some fact.userId) :
    RequestsLink ⟨op, resp⟩ fact ∨ w.owner fact.key = some fact.userId := by
  obtain rfl | ⟨identity, rfl, -, rfl⟩ | ⟨key, updatedAt, rfl⟩ := effect.changes
  · exact .inr owned
  · by_cases same : fact.key = identity.key
    · rw [same, LinkWorld.owner_link_self] at owned
      exact .inl ⟨same.symm, Option.some.inj owned⟩
    · rw [LinkWorld.owner_link_ne same] at owned
      exact .inr owned
  · rw [LinkWorld.owner_touch] at owned
    exact .inr owned

theorem owner_kept (effect : LinkEffect w op resp w')
    (owned : w.owner fact.key = some fact.userId) : w'.owner fact.key = some fact.userId := by
  obtain rfl | ⟨identity, rfl, free, rfl⟩ | ⟨key, updatedAt, rfl⟩ := effect.changes
  · exact owned
  · exact LinkWorld.owner_link free owned
  · rw [LinkWorld.owner_touch, owned]

theorem owner_confirmed (effect : LinkEffect w op resp w')
    (confirms : ConfirmsOwner ⟨op, resp⟩ fact) : w'.owner fact.key = some fact.userId := by
  rcases op with op | op | op
  · cases confirms
  · cases confirms
  · cases op with
    | findExternalIdentity =>
        rcases resp with e | _ | identity
        · cases confirms
        · cases confirms
        · obtain ⟨rfl, known⟩ := effect
          cases confirms
          exact congrArg (Option.map (·.userId)) known.symm
    | linkExternalIdentity identity =>
        rcases resp with e | ⟨⟩
        · cases confirms
        · obtain ⟨-, rfl⟩ := effect
          cases confirms
          exact LinkWorld.owner_link_self w identity
    | updateExternalIdentityClaimsSnapshot | mapClaims | resolveExternalUser => cases confirms

end Owners

/-- An owner that the store has confirmed is never replaced. -/
def standingOwners : Standing externalIdentityStore Ownership where
  stands w fact := LinkWorld.owner w fact.key = some fact.userId
  proposes := RequestsLink
  secures := ConfirmsOwner
  withdraws _ _ := False
  threatens _ _ := False
  init _ := nofun
  origin effect stands := (owner_origin effect stands).imp id fun before => ⟨before, id⟩
  secured := owner_confirmed
  kept effect stands _ := owner_kept effect stands

abbrev ExternalLoginPool (ι : Type) := ι → ExternalLogin

def ExternalLoginPool.program {ι : Type} (logins : ExternalLoginPool ι) (i : ι) :
    LoginM OidcLoginResult :=
  (logins i).program

/-- The identity had no link, and the host wanted none. -/
def LeftUnlinked (h : LoginHistory) (claims : ValidatedOidcClaims) : Prop :=
  foundIdentity claims none ∈ h ∧ ∃ mapped user, resolvedUser claims none mapped user ∈ h ∧
    user.linkExternalIdentity = false

theorem SettledLogin.confirmed {login : ExternalLogin} {h : LoginHistory}
    {claims : ValidatedOidcClaims} {existing : Option ExternalIdentity} {mapped : MappedClaims}
    {user : ProvisionedExternalUser}
    (settled : SettledLogin login h claims existing mapped user)
    (linked : ¬LeftUnlinked h claims) :
    ∃ e ∈ h, ConfirmsOwner e ⟨claims.key, user.userId⟩ := by
  cases existing with
  | some identity =>
      have same := settled.same identity rfl
      exact ⟨_, settled.resolved.found, congrArg (Ownership.mk claims.key) same.symm⟩
  | none =>
      have wanted : user.linkExternalIdentity = true := by
        by_contra unwanted
        exact linked ⟨settled.resolved.found, mapped, user, settled.resolved.resolved,
          Bool.eq_false_iff.mpr unwanted⟩
      obtain ⟨now, stored⟩ := settled.linked rfl wanted
      exact ⟨_, stored, rfl⟩

section Runs

variable {ι : Type} [DecidableEq ι] {logins : ExternalLoginPool ι}
variable {c : Config externalIdentityStore ι}

/-- A login that succeeded with a linked identity is one of the identity's owner. -/
theorem LoggedIn.owner (reached : Reachable externalIdentityStore logins.program c) {i : ι}
    {result : OidcLoginResult} {existing : Option ExternalIdentity} {mapped : MappedClaims}
    {user : ProvisionedExternalUser}
    (loggedIn : LoggedIn (logins i) (c.trace.of i) result existing mapped user)
    (linked : ¬LeftUnlinked (c.trace.of i) result.claims) :
    LinkWorld.owner c.state result.claims.key = some result.auth.user.userId := by
  obtain ⟨e, mem, confirms⟩ := loggedIn.settled.confirmed linked
  obtain ⟨late, early, share⟩ := List.append_of_mem (Trace.mem_of.mp mem)
  rw [loggedIn.session.userId]
  exact standingOwners.stands_of_secured reached share confirms fun _ _ => id

end Runs

/-- The provider that serves both logins. -/
def loginProvider : OidcProvider where
  config := portsProvider.config
  lib := { plainLibrary with
    readTokenResponse _ := some {
      accessToken := none, refreshToken := none, idToken := "id", tokenType := none
      expiresIn := none, scope := none, raw := .null } }

/-- The links so far, and how many identifiers were drawn. -/
structure LinkHost where
  links : LinkWorld
  drawn : Nat

/-- The thousandth second lasts, and whoever is unknown is `ada`. -/
def LinkHost.exec (m : LinkHost) :
    (op : loginSignature.Op) → Option (loginSignature.Resp op × LinkHost)
  | .inl .now => some (OffsetDateTime.atSecond 1000, m)
  | .inl .readDiscoveryCache =>
      some ((some (some ⟨portsDocument, .atSecond 2000⟩) : Option (Option CachedDiscovery)), m)
  | .inl (.postFormJson ..) => some ((.ok .null : AuthResult JsonValue), m)
  | .inl (.decodeIdToken _) =>
      some ((.ok (portsClaims "https://id.example" "subject") :
        AuthResult RawOidcIdTokenClaims), m)
  | .inl (.consumeOAuthState ..) =>
      some ((.ok (some (loginProvider.stateRecord "s" "n" ⟨"v", "c"⟩ none (.atSecond 900)
        (.atSecond 1500))) : AuthResult (Option OAuthLoginState)), m)
  | .inr (.inl (.now _)) => some (OffsetDateTime.atSecond 1000, m)
  | .inr (.inl .newUuid) => some ((⟨m.drawn⟩ : Uuid), { m with drawn := m.drawn + 1 })
  | .inr (.inl .generateOpaqueToken) => some ("refresh", m)
  | .inr (.inl (.insertRefreshToken _)) => some ((.ok () : AuthResult Unit), m)
  | .inr (.inr (.findExternalIdentity providerName externalSubject)) =>
      some ((.ok (m.links ⟨providerName, externalSubject⟩) :
        AuthResult (Option ExternalIdentity)), m)
  | .inr (.inr (.linkExternalIdentity identity)) =>
      if m.links identity.key = none then
        some ((.ok () : AuthResult Unit), { m with links := m.links.link identity })
      else some ((.error (.store "external identity is linked") : AuthResult Unit), m)
  | .inr (.inr (.updateExternalIdentityClaimsSnapshot providerName externalSubject updatedAt)) =>
      some ((.ok () : AuthResult Unit),
        { m with links := m.links.touch ⟨providerName, externalSubject⟩ updatedAt })
  | .inr (.inr (.mapClaims _)) => some ((.ok {} : AuthResult MappedClaims), m)
  | .inr (.inr (.resolveExternalUser _ existing _)) =>
      some ((.ok {
        userId := (existing.map (·.userId)).getD "ada", roles := [], scopes := [] } :
          AuthResult ProvisionedExternalUser), m)
  | _ => none

theorem LinkHost.exec_meets {m m' : LinkHost} {op : loginSignature.Op}
    {resp : loginSignature.Resp op} (answered : m.exec op = some (resp, m')) :
    LinkEffect m.links op resp m'.links := by
  rcases op with op | op | op
  · cases op <;> first | (cases answered; rfl) | cases answered
  · cases op <;> first | (cases answered; rfl) | cases answered
  · cases op with
    | findExternalIdentity =>
        cases answered
        exact ⟨rfl, rfl⟩
    | linkExternalIdentity identity =>
        simp only [LinkHost.exec] at answered
        split at answered
        · rename_i free
          cases answered
          exact ⟨free, rfl⟩
        · cases answered
          exact .inl rfl
    | updateExternalIdentityClaimsSnapshot | mapClaims | resolveExternalUser =>
        cases answered
        rfl

end AgqlAuth
