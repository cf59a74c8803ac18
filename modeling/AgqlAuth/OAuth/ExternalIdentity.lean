import AgqlAuth.OAuth.MemoryStore
import AgqlAuth.Pattern.Segments

/-!
# External subjects

An external subject joins two claims at a colon: the tenant and object ids of an
Entra account, otherwise the issuer and the subject. Which accounts it tells
apart depends on the issuers and tenants that a configuration admits.
-/

namespace AgqlAuth

open Interaction Program

/-- What stands before the colon of an external subject. -/
inductive Authority where
  | issuer (iss : String)
  | tenant (tid : String)
  deriving DecidableEq

def Authority.text : Authority → String
  | .issuer iss => iss
  | .tenant tid => tid

/-- An account, as its authority names it. -/
structure ProviderAccount where
  authority : Authority
  name : String
  deriving DecidableEq

namespace ProviderAccount

def externalSubject (self : ProviderAccount) : String := self.authority.text ++ ":" ++ self.name

/-- The two claims that an external subject is made of. -/
def ofClaims (kind : OidcProviderKind) (claims : RawOidcIdTokenClaims) : ProviderAccount :=
  match kind, claims.tid, claims.oid with
  | .microsoftEntra, some tid, some oid => ⟨.tenant tid, oid⟩
  | _, _, _ => ⟨.issuer claims.iss, claims.sub⟩

theorem stableExternalSubject_eq (kind : OidcProviderKind) (claims : RawOidcIdTokenClaims) :
    stableExternalSubject kind claims.iss claims.sub claims.tid claims.oid =
      (ofClaims kind claims).externalSubject := by
  unfold stableExternalSubject ofClaims
  cases kind <;> cases claims.tid <;> cases claims.oid <;> rfl

end ProviderAccount

/-- Two authorities of one text, or one whose text goes on past a colon after the other's. -/
def Authority.Confusable (a b : Authority) : Prop :=
  a ≠ b ∧ (a.text = b.text ∨ startsWith a.text (b.text ++ ":") = true ∨
    startsWith b.text (a.text ++ ":") = true)

theorem exists_externalSubject_eq_iff (a b : Authority) :
    (∃ x y, (ProviderAccount.mk a x).externalSubject = (ProviderAccount.mk b y).externalSubject) ↔
      a.text = b.text ∨ startsWith a.text (b.text ++ ":") = true ∨
        startsWith b.text (a.text ++ ":") = true := by
  have joined : ∀ a : Authority, ∀ x : String,
      (ProviderAccount.mk a x).externalSubject.toList = a.text.toList ++ ':' :: x.toList := by
    intro a x
    simp [ProviderAccount.externalSubject]
  have lists : (∃ x y, a.text.toList ++ ':' :: x = b.text.toList ++ ':' :: y) ↔ _ :=
    Pattern.exists_joined_eq_iff
  simp only [startsWith_iff, String.toList_append, ← String.toList_inj]
  refine Iff.trans ?_ lists
  simp only [joined]
  constructor
  · rintro ⟨x, y, same⟩
    exact ⟨x.toList, y.toList, same⟩
  · rintro ⟨x, y, same⟩
    exact ⟨.ofList x, .ofList y, by simpa using same⟩

/-- Accounts that share an external subject have confusable authorities, or are the same. -/
theorem ProviderAccount.eq_or_confusable {p q : ProviderAccount}
    (same : p.externalSubject = q.externalSubject) :
    p = q ∨ p.authority.Confusable q.authority := by
  by_cases equal : p.authority = q.authority
  · left
    obtain ⟨authority, name⟩ := p
    obtain ⟨authority', name'⟩ := q
    obtain rfl := equal
    simpa [externalSubject] using same
  · exact .inr ⟨equal, (exists_externalSubject_eq_iff _ _).mp ⟨_, _, same⟩⟩

section Accepted

variable {provider : OidcProvider} {document : OidcDiscoveryDocument}
variable {claims : RawOidcIdTokenClaims} {validated : ValidatedOidcClaims}

/-- `validate_claims` accepts the claims, for some nonce and at some reading of the clock. -/
def OidcProvider.Accepts (self : OidcProvider) (document : OidcDiscoveryDocument)
    (claims : RawOidcIdTokenClaims) (validated : ValidatedOidcClaims) : Prop :=
  ∃ expectedNonce h,
    Path (self.validateClaims claims expectedNonce document) h (ret (.ok validated))

theorem OidcProvider.accepts_iff :
    provider.Accepts document claims validated ↔
      ∃ expectedNonce nonce now, provider.Identified claims expectedNonce document nonce ∧
        provider.validateTimes claims now = .ok () ∧
        provider.normalizeClaims claims nonce = .ok validated := by
  constructor
  · rintro ⟨expectedNonce, h, path⟩
    have checked : Upholds (S := oauthSignature) (fun _ _ => True)
        (fun _ result => ∀ validated, result = .ok validated → ∃ nonce now,
          provider.Identified claims expectedNonce document nonce ∧
          provider.validateTimes claims now = .ok () ∧
          provider.normalizeClaims claims nonce = .ok validated)
        [] (provider.validateClaims claims expectedNonce document) := by
      refine Fallible.Upholds.lift_bind (fun nonce identified => ?_) fun _ _ _ failed => nomatch failed
      refine Fallible.Upholds.perform_bind trivial fun now => ?_
      refine Fallible.Upholds.lift_bind (fun _ timely => ?_) fun _ _ _ failed => nomatch failed
      intro validated normalized
      exact ⟨nonce, now, validateIdentity_eq_ok_iff.mp identified, timely, normalized⟩
    exact ⟨expectedNonce, checked.post_of_path path _ rfl⟩
  · rintro ⟨expectedNonce, nonce, now, identified, timely, normalized⟩
    have identified := validateIdentity_eq_ok_iff.mpr identified
    have attained : Attains (S := oauthSignature) (fun _ result => result = .ok validated) []
        (provider.validateClaims claims expectedNonce document) := by
      refine Fallible.Attains.lift_bind identified ?_
      refine ⟨now, ?_⟩
      refine Fallible.Attains.lift_bind timely ?_
      exact normalized
    obtain ⟨h, result, path, rfl⟩ := Attains.path_of .start attained
    exact ⟨expectedNonce, h, path⟩

/-- The issuer and tenant checks. -/
structure OidcProvider.AdmitsIssuer (provider : OidcProvider) (document : OidcDiscoveryDocument)
    (iss : String) (tid : Option String) : Prop where
  issuer : provider.issuerAllowed iss tid document = true
  tenant : provider.validateTenant tid = .ok ()

/-- Some claims that the provider accepts could name this authority. -/
def OidcProvider.Admits (self : OidcProvider) (document : OidcDiscoveryDocument) :
    Authority → Prop
  | .issuer iss => ∃ tid, self.AdmitsIssuer document iss tid
  | .tenant tid =>
      self.config.providerKind = .microsoftEntra ∧ ∃ iss, self.AdmitsIssuer document iss (some tid)

theorem OidcProvider.Accepts.admitsIssuer (accepts : provider.Accepts document claims validated) :
    provider.AdmitsIssuer document claims.iss claims.tid := by
  obtain ⟨expectedNonce, nonce, now, identified, -⟩ := accepts_iff.mp accepts
  exact ⟨identified.issuer, identified.tenant⟩

theorem OidcProvider.Accepts.externalSubject_eq
    (accepts : provider.Accepts document claims validated) :
    validated.externalSubject =
      (ProviderAccount.ofClaims provider.config.providerKind claims).externalSubject := by
  obtain ⟨expectedNonce, nonce, now, -, -, normalized⟩ := accepts_iff.mp accepts
  rw [(normalizeClaims_copies normalized).2, ProviderAccount.stableExternalSubject_eq]

/-- The names of an accepted token are admitted. -/
theorem OidcProvider.Accepts.admits (accepts : provider.Accepts document claims validated) :
    provider.Admits document
      (ProviderAccount.ofClaims provider.config.providerKind claims).authority := by
  have admitted := accepts.admitsIssuer
  unfold ProviderAccount.ofClaims
  split
  case h_1 kind tid oid entra present named =>
    rw [present] at admitted
    exact ⟨entra, _, admitted⟩
  case h_2 => exact ⟨_, admitted⟩

theorem OidcProvider.Accepts.usable (accepts : provider.Accepts document claims validated) :
    ∃ now : OffsetDateTime, now.checkedAdd provider.config.clockSkew ≠ none := by
  obtain ⟨expectedNonce, nonce, now, -, timely, -⟩ := accepts_iff.mp accepts
  refine ⟨now, fun overflows => ?_⟩
  simp only [OidcProvider.validateTimes, overflows] at timely
  cases timely

/-- Claims of the given names, issued at the earliest instant there is. -/
def OidcProvider.plainClaims (self : OidcProvider) (iss sub : String) (tid oid : Option String) :
    RawOidcIdTokenClaims where
  iss
  aud := [self.config.clientId]
  sub
  exp := minUnixNanos / nanosPerSecond
  nbf := none
  iat := minUnixNanos / nanosPerSecond
  authTime := none
  amr := none
  acr := none
  acrs := none
  nonce := some ""
  azp := none
  tid
  oid

theorem OidcProvider.exists_accepts_plainClaims {iss : String} {tid : Option String}
    (admitted : provider.AdmitsIssuer document iss tid) (sub : String) (oid : Option String)
    (usable : ∃ now : OffsetDateTime, now.checkedAdd provider.config.clockSkew ≠ none) :
    ∃ validated, provider.Accepts document (provider.plainClaims iss sub tid oid) validated := by
  obtain ⟨now, usable⟩ := usable
  obtain ⟨latest, added⟩ := Option.ne_none_iff_exists'.mp usable
  have identified :
      provider.Identified (provider.plainClaims iss sub tid oid) "" document "" := by
    constructor
    case present => rfl
    case expected => rfl
    case audiences => rfl
    case issuer => exact admitted.issuer
    case tenant => exact admitted.tenant
  have timely : provider.validateTimes (provider.plainClaims iss sub tid oid) now = .ok () := by
    have earliest : minUnixNanos / nanosPerSecond ≤ latest.unixTimestamp :=
      Int.ediv_le_ediv (by decide) latest.lower
    simp only [OidcProvider.validateTimes, added]
    exact if_neg (not_lt.mpr earliest)
  have read : unixTimestampToDatetime (minUnixNanos / nanosPerSecond) =
      .ok ⟨minUnixNanos, by decide, by decide⟩ := by
    decide
  have normalized : ∃ validated,
      provider.normalizeClaims (provider.plainClaims iss sub tid oid) "" = .ok validated := by
    simp only [OidcProvider.normalizeClaims, OidcProvider.plainClaims, Option.getD_none, read]
    exact ⟨_, rfl⟩
  obtain ⟨validated, normalized⟩ := normalized
  exact ⟨validated, accepts_iff.mpr ⟨"", "", now, identified, timely, normalized⟩⟩

/-- Every name under an admitted authority is accepted, beside any unlike subject. -/
theorem OidcProvider.exists_accepts_account {authority : Authority}
    (admits : provider.Admits document authority) (name sub : String)
    (usable : ∃ now : OffsetDateTime, now.checkedAdd provider.config.clockSkew ≠ none) :
    ∃ claims validated, provider.Accepts document claims validated ∧
      ProviderAccount.ofClaims provider.config.providerKind claims = ⟨authority, name⟩ ∧
      (claims.oid = none ∧ claims.sub = name ∨
        claims.oid = some name ∧ claims.sub = sub) := by
  cases authority with
  | issuer iss =>
      obtain ⟨tid, admitted⟩ := admits
      obtain ⟨validated, accepts⟩ :=
        exists_accepts_plainClaims admitted name none usable
      refine ⟨_, validated, accepts, ?_, .inl ⟨rfl, rfl⟩⟩
      cases provider.config.providerKind <;> cases tid <;> rfl
  | tenant tid =>
      obtain ⟨entra, iss, admitted⟩ := admits
      obtain ⟨validated, accepts⟩ :=
        exists_accepts_plainClaims admitted sub (some name) usable
      refine ⟨_, validated, accepts, ?_, .inr ⟨rfl, rfl⟩⟩
      rw [entra]
      rfl

end Accepted

/--
The same tenant and object ids where both tokens are Entra tokens with an object
id, otherwise the same issuer and subject.
-/
def SameAccount (kind : OidcProviderKind) (first second : RawOidcIdTokenClaims) : Prop :=
  if kind = .microsoftEntra ∧ first.oid.isSome = true ∧ second.oid.isSome = true then
    first.tid = second.tid ∧ first.oid = second.oid
  else first.iss = second.iss ∧ first.sub = second.sub

/-- Accounts are equal where they are the same and named by claims of the same kind. -/
theorem ProviderAccount.ofClaims_eq_iff {kind : OidcProviderKind}
    {first second : RawOidcIdTokenClaims}
    (present : kind = .microsoftEntra → first.tid.isSome = true ∧ second.tid.isSome = true) :
    ofClaims kind first = ofClaims kind second ↔
      SameAccount kind first second ∧
        (kind = .microsoftEntra → first.oid.isSome = second.oid.isSome) := by
  cases kind with
  | generic => simp [ofClaims, SameAccount]
  | microsoftEntra =>
      obtain ⟨tid, first_tid⟩ := Option.isSome_iff_exists.mp (present rfl).1
      obtain ⟨tid', second_tid⟩ := Option.isSome_iff_exists.mp (present rfl).2
      unfold ofClaims SameAccount
      rw [first_tid, second_tid]
      cases first.oid <;> cases second.oid <;> simp

section Injective

variable {provider : OidcProvider} {first second : OidcDiscoveryDocument}
variable {claims claims' : RawOidcIdTokenClaims} {validated validated' : ValidatedOidcClaims}

theorem OidcProvider.Accepts.tid_isSome (accepts : provider.Accepts first claims validated)
    (entra : provider.config.providerKind = .microsoftEntra) : claims.tid.isSome = true := by
  have tenant := accepts.admitsIssuer.tenant
  cases present : claims.tid with
  | none =>
      simp only [OidcProvider.validateTenant, entra, present] at tenant
      cases tenant
  | some tid => rfl

theorem OidcProvider.Accepts.ofClaims_eq_iff (accepts : provider.Accepts first claims validated)
    (accepts' : provider.Accepts second claims' validated') :
    ProviderAccount.ofClaims provider.config.providerKind claims =
        ProviderAccount.ofClaims provider.config.providerKind claims' ↔
      SameAccount provider.config.providerKind claims claims' ∧
        (provider.config.providerKind = .microsoftEntra → claims.oid.isSome = claims'.oid.isSome) :=
  ProviderAccount.ofClaims_eq_iff fun entra => ⟨accepts.tid_isSome entra, accepts'.tid_isSome entra⟩

/-- Under confusable authorities some accounts that differ share an external subject. -/
theorem OidcProvider.exists_shared_subject {a b : Authority} (admits : provider.Admits first a)
    (admits' : provider.Admits second b) (confusable : a.Confusable b)
    (usable : ∃ now : OffsetDateTime, now.checkedAdd provider.config.clockSkew ≠ none) :
    ∃ claims claims' validated validated', provider.Accepts first claims validated ∧
      provider.Accepts second claims' validated' ∧
      validated.externalSubject = validated'.externalSubject ∧
      ¬SameAccount provider.config.providerKind claims claims' := by
  obtain ⟨apart, meeting⟩ := confusable
  obtain ⟨x, y, shared⟩ := (exists_externalSubject_eq_iff a b).mpr meeting
  obtain ⟨claims, validated, accepts, named, free⟩ :=
    exists_accepts_account admits x (y ++ ":") usable
  obtain ⟨claims', validated', accepts', named', free'⟩ :=
    exists_accepts_account admits' y (x ++ ":") usable
  refine ⟨claims, claims', validated, validated', accepts, accepts', ?_, fun same => ?_⟩
  · rw [accepts.externalSubject_eq, accepts'.externalSubject_eq, named, named']
    exact shared
  · by_cases alike : provider.config.providerKind = .microsoftEntra →
        claims.oid.isSome = claims'.oid.isSome
    · have equal := (accepts.ofClaims_eq_iff accepts').mpr ⟨same, alike⟩
      rw [named, named'] at equal
      exact apart (congrArg ProviderAccount.authority equal)
    · have unlike : claims.oid.isSome ≠ claims'.oid.isSome := fun equal => alike fun _ => equal
      have longer : ∀ s : String, s ++ ":" ≠ s := by
        intro s equal
        have lengths := congrArg String.length equal
        simp at lengths
      unfold SameAccount at same
      rcases free with ⟨without, sub⟩ | ⟨some_oid, sub⟩
      · rcases free' with ⟨without', -⟩ | ⟨some_oid', sub'⟩
        · simp [without, without'] at unlike
        · rw [without, sub, sub', if_neg (by simp)] at same
          exact longer x same.2.symm
      · rcases free' with ⟨without', sub'⟩ | ⟨some_oid', -⟩
        · rw [without', sub, sub', if_neg (by simp)] at same
          exact longer y same.2
        · simp [some_oid, some_oid'] at unlike

/--
Equal external subjects denote one account, for any two tokens a provider accepts,
exactly if no two authorities it admits are confusable (or its clock skew leaves no
clock reading in range, and it accepts nothing).
-/
theorem external_subject_injective_iff (provider : OidcProvider)
    (first second : OidcDiscoveryDocument) :
    (∀ claims claims' validated validated', provider.Accepts first claims validated →
        provider.Accepts second claims' validated' →
        validated.externalSubject = validated'.externalSubject →
        SameAccount provider.config.providerKind claims claims') ↔
      ((∃ now : OffsetDateTime, now.checkedAdd provider.config.clockSkew ≠ none) →
        ∀ a b, provider.Admits first a → provider.Admits second b → ¬a.Confusable b) := by
  constructor
  · intro injective usable a b admits admits' confusable
    obtain ⟨claims, claims', validated, validated', accepts, accepts', shared, differ⟩ :=
      OidcProvider.exists_shared_subject admits admits' confusable usable
    exact differ (injective claims claims' validated validated' accepts accepts' shared)
  · intro separated claims claims' validated validated' accepts accepts' shared
    rw [accepts.externalSubject_eq, accepts'.externalSubject_eq] at shared
    rcases ProviderAccount.eq_or_confusable shared with equal | confusable
    · exact ((accepts.ofClaims_eq_iff accepts').mp equal).1
    · exact (separated accepts.usable _ _ accepts.admits accepts'.admits confusable).elim

end Injective

/-- A provider that admits a host under two ports. -/
def portsProvider : OidcProvider where
  config := { sampleOidcProvider.config with
    allowedIssuers := ["https://id.example", "https://id.example:8443"] }
  lib := plainLibrary

def portsDocument : OidcDiscoveryDocument where
  issuer := "https://id.example"
  authorizationEndpoint := "https://id.example/authorize"
  tokenEndpoint := "https://id.example/token"
  jwksUri := "https://id.example/jwks"

/-- A token of the thousandth second. -/
def portsClaims (iss sub : String) : RawOidcIdTokenClaims where
  iss
  aud := ["client"]
  sub
  exp := 1600
  nbf := none
  iat := 1000
  authTime := none
  amr := none
  acr := none
  acrs := none
  nonce := some "n"
  azp := none
  tid := none
  oid := none

/-- A port at the end of an issuer reads as the start of another issuer's subject. -/
theorem port_reads_as_subject : ∃ validated validated',
    portsProvider.Accepts portsDocument (portsClaims "https://id.example:8443" "alice")
      validated ∧
    portsProvider.Accepts portsDocument (portsClaims "https://id.example" "8443:alice")
      validated' ∧
    validated.externalSubject = validated'.externalSubject ∧
    ¬SameAccount portsProvider.config.providerKind
      (portsClaims "https://id.example:8443" "alice")
      (portsClaims "https://id.example" "8443:alice") := by
  have accepted : ∀ claims, (∃ h result, Path
      (portsProvider.validateClaims claims "n" portsDocument) h (ret result) ∧
        result.toOption.any (fun validated =>
          validated.externalSubject == "https://id.example:8443:alice") = true) →
      ∃ validated, portsProvider.Accepts portsDocument claims validated ∧
        validated.externalSubject = "https://id.example:8443:alice" := by
    rintro claims ⟨h, result, path, named⟩
    cases result with
    | error e => cases named
    | ok validated => exact ⟨validated, ⟨"n", h, path⟩, eq_of_beq named⟩
  obtain ⟨validated, accepts, named⟩ :=
    accepted (portsClaims "https://id.example:8443" "alice")
      (exists_path_of_finish _ (oauthAnswers 1000) _ (by decide +kernel))
  obtain ⟨validated', accepts', named'⟩ :=
    accepted (portsClaims "https://id.example" "8443:alice")
      (exists_path_of_finish _ (oauthAnswers 1000) _ (by decide +kernel))
  refine ⟨validated, validated', accepts, accepts', named.trans named'.symm, ?_⟩
  simp [SameAccount, portsClaims]

end AgqlAuth
