import AgqlAuth.Interaction.Refine
import AgqlAuth.OAuth.ClientJwt
import AgqlAuth.OAuth.TokenRequest
import AgqlAuth.Token.Table

/-!
# The JWT of a token request

What a token endpoint reads in a JWT of the signer, over the calls of a provider
whose signatures are carried out: the client's claims, for that endpoint, valid at
the time of the request and for no longer than any provider accepts.
-/

namespace AgqlAuth

open Interaction Program OAuthM

/-- The claims of a JWT that is signed at `now`. -/
structure Asserts (claims : ClientJwtClaims) (now : OffsetDateTime) (endpoint : String)
    (payload : ClientJwtPayload) : Prop where
  issuer : payload.iss = claims.issuer
  subject : payload.sub = claims.subject
  audience : payload.aud = claims.audience.getD endpoint
  lifetime : payload.exp - payload.iat = claims.lifetime.wholeSeconds
  bounded : payload.exp - payload.iat ≤ maxClientJwtLifetimeSeconds
  issued : payload.iat ≤ now.unixTimestamp
  recent : now.unixTimestamp - payload.iat ≤ maxClientJwtIssuedAtSkewSeconds
  current : now.unixTimestamp < payload.exp

/-- The identifier of a JWT, if it was asked for, is drawn for it. -/
inductive DrawnFor : Bool → OAuthHistory → Option String → Prop where
  | unasked : DrawnFor false [] none
  | asked (bytes : Vector UInt8 32) :
      DrawnFor true [⟨.fillBytes 32, bytes⟩] (some (base64UrlSafeNoPad bytes.toList))

/-- One identifier is drawn twice only from the same bytes. -/
theorem DrawnFor.repeats {part part' : OAuthHistory} {jti : Option String}
    (drawn : DrawnFor true part jti) (drawn' : DrawnFor true part' jti) :
    ∃ bytes : Vector UInt8 32, part = [⟨.fillBytes 32, bytes⟩] ∧
      part' = [⟨.fillBytes 32, bytes⟩] := by
  obtain ⟨⟩ | ⟨bytes⟩ := drawn
  generalize text : some (base64UrlSafeNoPad bytes.toList) = jti at drawn'
  obtain ⟨⟩ | ⟨bytes'⟩ := drawn'
  have same : bytes = bytes' :=
    Vector.toList_inj.mp (base64UrlSafeNoPad_injective (Option.some.inj text))
  exact ⟨bytes, rfl, same ▸ rfl⟩

section Signer

variable {lib : JwtLibrary} {signer : ClientJwtSigner lib} {now : OffsetDateTime}
variable {endpoint token : String} {includeJti : Bool} {part : OAuthHistory}
variable {payload : ClientJwtPayload}

/-- One JWT of the signer, and what was drawn for it. -/
structure Minted (signer : ClientJwtSigner lib) (now : OffsetDateTime) (endpoint : String)
    (includeJti : Bool) (part : OAuthHistory) (payload : ClientJwtPayload) (token : String) :
    Prop where
  asserts : Asserts signer.claims now endpoint payload
  drawn : DrawnFor includeJti part payload.jti
  fits : payload.Fits
  encoded : lib.encode (ClientJwtSigner.header signer.algorithm signer.claims)
    (ClientJwtPayload.json.write payload) signer.key = .ok token

/-- Whoever verifies the JWT reads its claims. -/
theorem Minted.read (faithful : lib.Faithful)
    (minted : Minted signer now endpoint includeJti part payload token) {key : lib.DecodingKey}
    {algorithms : List JwtAlgorithm} {read : JsonValue}
    (verified : lib.verify token key algorithms = .ok read) :
    ClientJwtPayload.json.read read = some payload := by
  rw [faithful.payload minted.encoded verified]
  exact ClientJwtPayload.json.read_write minted.fits

/-- A signature ends with a JWT, or because the library refuses to sign. -/
def SignExit (signer : ClientJwtSigner lib) (now : OffsetDateTime) (endpoint : String)
    (includeJti : Bool) (part : OAuthHistory) : AuthResult String → Prop
  | .ok token => ∃ payload, Minted signer now endpoint includeJti part payload token
  | .error e => e = .tokenCreation "client JWT signing failed" ∧ ∃ payload e', lib.encode
      (ClientJwtSigner.header signer.algorithm signer.claims)
      (ClientJwtPayload.json.write payload) signer.key = .error e'

theorem fits_of_near {second exact : Int} (t : OffsetDateTime) (same : second = t.unixTimestamp)
    (below : second - 300 ≤ exact) (above : exact ≤ second + 15777000) : Json.FitsI64 exact := by
  have lower := t.lower
  have upper := t.upper
  simp only [minUnixNanos, maxUnixNanos, nanosPerSecond, OffsetDateTime.unixTimestamp] at *
  constructor <;> omega

theorem encodePayload_exit (drawn : DrawnFor includeJti part payload.jti)
    (asserts : Asserts signer.claims now endpoint payload) (fits : payload.Fits) :
    SignExit signer now endpoint includeJti part
      (ClientJwtSigner.encodePayload lib signer.algorithm signer.key signer.claims payload) := by
  cases encoded : lib.encode (ClientJwtSigner.header signer.algorithm signer.claims)
      (ClientJwtPayload.json.write payload) signer.key with
  | error e =>
      rw [ClientJwtSigner.encodePayload, encoded]
      exact ⟨rfl, payload, e, encoded⟩
  | ok token =>
      rw [ClientJwtSigner.encodePayload, encoded]
      exact ⟨payload, asserts, drawn, fits, encoded⟩

/-- The random bytes of an identifier. -/
def drawsIdentifier (includeJti : Bool) : OAuthOp → Prop
  | .fillBytes length => includeJti = true ∧ length = 32
  | _ => False

theorem sign_exits (signer : ClientJwtSigner lib) (now : OffsetDateTime) (endpoint : String)
    (includeJti : Bool) :
    Upholds (S := oauthSignature) (fun _ => drawsIdentifier includeJti)
      (SignExit signer now endpoint includeJti) [] (signer.sign now endpoint includeJti) := by
  have bounded := ClientJwtClaims.bounded_of_validate signer.accepted
  have lifetime := bounded.lifetime
  have backdated := bounded.backdated
  have skew := bounded.skew
  have usable := bounded.usable
  simp only [maxClientJwtLifetimeSeconds, maxClientJwtIssuedAtSkewSeconds] at lifetime skew
  have iat : Json.FitsI64 (now.unixTimestamp - signer.claims.issuedAtSkew.wholeSeconds) :=
    fits_of_near now rfl (by omega) (by omega)
  have exp : Json.FitsI64 (now.unixTimestamp - signer.claims.issuedAtSkew.wholeSeconds +
      signer.claims.lifetime.wholeSeconds) :=
    fits_of_near now rfl (by omega) (by omega)
  have asserts : ∀ jti, Asserts signer.claims now endpoint (ClientJwtSigner.payload signer.claims
      endpoint (now.unixTimestamp - signer.claims.issuedAtSkew.wholeSeconds)
      (now.unixTimestamp - signer.claims.issuedAtSkew.wholeSeconds +
        signer.claims.lifetime.wholeSeconds) jti) := by
    intro jti
    constructor <;> simp only [ClientJwtSigner.payload, maxClientJwtLifetimeSeconds,
      maxClientJwtIssuedAtSkewSeconds] <;> omega
  rw [ClientJwtSigner.sign, ClientJwtSigner.signWith, representable_of_fits iat]
  apply Fallible.Upholds.bind
  apply Fallible.Upholds.resume
  rw [representable_of_fits exp]
  apply Fallible.Upholds.bind
  apply Fallible.Upholds.resume
  cases includeJti with
  | true =>
      apply Fallible.Upholds.perform_bind ⟨rfl, rfl⟩
      intro bytes
      exact encodePayload_exit (.asked bytes) (asserts _) ⟨iat, exp⟩
  | false => exact encodePayload_exit .unasked (asserts _) ⟨iat, exp⟩

end Signer

section Calls

variable {lib : JwtLibrary} {signer : ClientJwtSigner lib} {H : OAuthHistory} {h : OAuthHistory}

/-- The operations of a provider, with the signatures of its client carried out. -/
def ClientJwtSigner.carryOut (signer : ClientJwtSigner lib) :
    (op : oauthSignature.Op) → Program oauthSignature (oauthSignature.Resp op)
  | .signClientJwt now defaultAudience includeJti => signer.sign now defaultAudience includeJti
  | op => .call op .ret

def OAuthCall.withSigner (call : OAuthCall) (signer : ClientJwtSigner lib) : OAuthM OAuthReturn :=
  call.program.refine signer.carryOut

/-- What carrying out an operation has answered. -/
def SignerAnswer (signer : ClientJwtSigner lib) :
    (op : oauthSignature.Op) → OAuthHistory → oauthSignature.Resp op → Prop
  | .signClientJwt now audience includeJti, part, resp =>
      SignExit signer now audience includeJti part resp
  | op, part, resp => part = [⟨op, resp⟩]

/-- What carrying out an operation issues. -/
def SignerPart (op : oauthSignature.Op) (part : OAuthHistory) (op' : OAuthOp) : Prop :=
  match op with
  | .signClientJwt _ _ includeJti => drawsIdentifier includeJti op'
  | op => part = [] ∧ op' = op

theorem carryOut_signs (signer : ClientJwtSigner lib) (op : oauthSignature.Op) :
    Upholds (SignerPart op) (SignerAnswer signer op) [] (signer.carryOut op) := by
  cases op with
  | signClientJwt now audience includeJti => exact sign_exits signer now audience includeJti
  | _ => exact ⟨⟨rfl, rfl⟩, fun _ => rfl⟩

/-- The last thing that happened was to sign `token` for `endpoint`, at the time just read. -/
def JustSigned (signer : ClientJwtSigner lib) (endpoint : String) (includeJti : Bool)
    (token : String) (H : OAuthHistory) : Prop :=
  ∃ now part past payload, H = part ++ clockReading now :: past ∧
    Minted signer now endpoint includeJti part payload token

theorem justSigned_of_fresh {endpoint token : String} {includeJti : Bool}
    (explains : Explains (SignerAnswer signer) H h)
    (fresh : FreshlySigned endpoint includeJti token h) :
    JustSigned signer endpoint includeJti token H := by
  obtain ⟨now, past, rfl⟩ := fresh
  obtain ⟨part, earlier, rfl, ⟨payload, minted⟩, explains⟩ := explains.last
  obtain ⟨read, before, rfl, clock, -⟩ := explains.last
  obtain rfl : read = [clockReading now] := clock
  exact ⟨now, part, before, payload, rfl, minted⟩

/-- Where the credential of a request comes from, once signatures are carried out. -/
inductive TokenClient.Authenticated (client : TokenClient) (signer : ClientJwtSigner lib)
    (endpoint : String) (H : OAuthHistory) : PresentedCredential → Prop where
  | nothing (secret : client.clientSecret = none) (unsigned : client.hasClientJwt = false) :
      Authenticated client signer endpoint H .nothing
  | secret {secret : String} (static : client.clientSecret = some secret) :
      Authenticated client signer endpoint H (.secret (utf8Bytes secret))
  | signedSecret {token : String} (secret : client.clientSecret = none)
      (signed : JustSigned signer endpoint false token H) :
      Authenticated client signer endpoint H (.secret (utf8Bytes token))
  | assertion {token : String} (signed : JustSigned signer endpoint true token H) :
      Authenticated client signer endpoint H (.assertion token)

theorem authenticated_of_proves {client : TokenClient} {endpoint : String}
    {credential : PresentedCredential} (explains : Explains (SignerAnswer signer) H h)
    (proves : client.Proves endpoint h credential) :
    client.Authenticated signer endpoint H credential := by
  cases proves with
  | nothing method secret unsigned => exact .nothing secret unsigned
  | secret method static => exact .secret static
  | signedSecret method secret signed fresh =>
      exact .signedSecret secret (justSigned_of_fresh explains fresh)
  | assertion method signed fresh => exact .assertion (justSigned_of_fresh explains fresh)

/-- What a call with its signer issues. -/
def TokenClient.signedGuard (client : TokenClient) (signer : ClientJwtSigner lib)
    (H : OAuthHistory) : OAuthOp → Prop
  | .postFormJson url headers form => ∃ credential,
      presentedClient headers form = some ⟨utf8Bytes client.clientId, credential⟩ ∧
        client.Authenticated signer url H credential
  | _ => True

theorem OAuthCall.withSigner_presents (call : OAuthCall) (signer : ClientJwtSigner lib) :
    Upholds (S := oauthSignature) (call.tokenClient.signedGuard signer) Ended []
      (call.withSigner signer) := by
  refine (Upholds.refine (carryOut_signs signer) call.presents .start).mono ?_ fun _ _ _ => trivial
  rintro H op' ⟨h, op, part, earlier, explains, issued, rfl, own⟩
  cases op' with
  | postFormJson url headers form =>
      cases op with
      | signClientJwt now audience includeJti => cases own
      | postFormJson url headers form =>
          obtain ⟨rfl, ⟨⟩⟩ := own
          obtain ⟨credential, presented, proves⟩ := issued
          exact ⟨credential, presented, authenticated_of_proves explains proves⟩
      | _ => cases own.2
  | _ => trivial

theorem justSigned_of_presented {call : OAuthCall} {url token : String} {clientId : List UInt8}
    {headers form : List (String × String)} {early : OAuthHistory}
    {next : AuthResult JsonValue → OAuthM OAuthReturn}
    (waiting : Path (call.withSigner signer) early
      (.call (S := oauthSignature) (.postFormJson url headers form) next))
    (presented : presentedClient headers form = some ⟨clientId, .assertion token⟩) :
    JustSigned signer url true token early := by
  obtain ⟨credential, read, authenticated⟩ :=
    (call.withSigner_presents signer).guard_of_path waiting
  cases presented.symm.trans read
  cases authenticated with
  | assertion signed => exact signed

/--
No two token requests present one assertion, whichever calls make them, unless the
random bytes of its identifier repeat.
-/
theorem client_assertion_unrepeated (faithful : lib.Faithful) (signer : ClientJwtSigner lib)
    (call call' : OAuthCall) {url url' token : String} {clientId clientId' : List UInt8}
    {headers form headers' form' : List (String × String)} {early early' : OAuthHistory}
    {next next' : AuthResult JsonValue → OAuthM OAuthReturn}
    (waiting : Path (call.withSigner signer) early
      (.call (S := oauthSignature) (.postFormJson url headers form) next))
    (waiting' : Path (call'.withSigner signer) early'
      (.call (S := oauthSignature) (.postFormJson url' headers' form') next'))
    (presented : presentedClient headers form = some ⟨clientId, .assertion token⟩)
    (presented' : presentedClient headers' form' = some ⟨clientId', .assertion token⟩)
    {key : lib.DecodingKey} {algorithms : List JwtAlgorithm} {read : JsonValue}
    (verified : lib.verify token key algorithms = .ok read) :
    ∃ (bytes : Vector UInt8 32) (past past' : OAuthHistory),
      early = ⟨.fillBytes 32, bytes⟩ :: past ∧ early' = ⟨.fillBytes 32, bytes⟩ :: past' := by
  obtain ⟨now, part, past, payload, rfl, minted⟩ := justSigned_of_presented waiting presented
  obtain ⟨now', part', past', payload', rfl, minted'⟩ := justSigned_of_presented waiting' presented'
  obtain rfl : payload = payload' :=
    Option.some.inj ((minted.read faithful verified).symm.trans (minted'.read faithful verified))
  obtain ⟨bytes, rfl, rfl⟩ := minted.drawn.repeats minted'.drawn
  exact ⟨bytes, _, _, rfl, rfl⟩

end Calls

def assertionClaims : ClientJwtClaims := .new "client" "client"

/-- The claims of a JWT that is signed a minute after the epoch. -/
def assertionPayload : ClientJwtPayload where
  iss := "client"
  sub := "client"
  aud := "https://acme.test/token"
  iat := 30
  exp := 330
  jti := some (base64UrlSafeNoPad (Vector.replicate 32 (7 : UInt8)).toList)

abbrev assertionLibrary : JwtLibrary :=
  tableLibrary [⟨⟨.es256, none⟩, ClientJwtPayload.json.write assertionPayload, "k"⟩]

theorem assertionClaims_accepted : assertionClaims.validate = .ok () := by decide

def assertionSigner : ClientJwtSigner assertionLibrary where
  algorithm := .es256
  key := "k"
  claims := assertionClaims
  accepted := assertionClaims_accepted

def assertionProvider : OAuth2Provider :=
  { sampleOAuth2Provider with
    config := { sampleOAuth2Provider.config with
      hasClientJwt := true
      tokenEndpointAuthMethod := .privateKeyJwt } }

def assertionCall (code : String) : OAuthCall :=
  .oauth2Callback assertionProvider { code := some code, state := some "s" }

def assertionAnswers : (op : oauthSignature.Op) → Option (oauthSignature.Resp op)
  | .fillBytes length => some (Vector.replicate length 7)
  | op => basicAnswers op

def presentsAssertion (e : OAuthEvent) : Bool :=
  match e.op with
  | .postFormJson _ headers form =>
      presentedClient headers form == some ⟨utf8Bytes "client", .assertion (tableToken 0)⟩
  | _ => false

theorem assertionCall_posts {code : String} (known : code ∈ ["c", "d"]) :
    ∃ url headers form early, ∃ next : AuthResult JsonValue → OAuthM OAuthReturn,
      Path ((assertionCall code).withSigner assertionSigner) early
        (.call (S := oauthSignature) (.postFormJson url headers form) next) ∧
      presentedClient headers form = some ⟨utf8Bytes "client", .assertion (tableToken 0)⟩ := by
  have passed : (((assertionCall code).withSigner assertionSigner).finish assertionAnswers []).any
      (fun ended => ended.1.any presentsAssertion) = true := by
    simp only [List.mem_cons, List.not_mem_nil, or_false] at known
    rcases known with rfl | rfl <;> decide +kernel
  obtain ⟨⟨h, value⟩, finished, posted⟩ := (Option.any_eq_true ..).mp passed
  obtain ⟨⟨op, raw⟩, mem, posted⟩ := List.any_eq_true.mp posted
  obtain ⟨late, early, share⟩ := List.append_of_mem mem
  have path : Path ((assertionCall code).withSigner assertionSigner)
      (late ++ ⟨op, raw⟩ :: early) (ret value) :=
    share ▸ Path.finish .start finished
  obtain ⟨next, waiting⟩ := path.issued
  cases op with
  | postFormJson url headers form =>
      exact ⟨url, headers, form, early, next, waiting, eq_of_beq posted⟩
  | _ => cases posted

/-- Two calls that draw the same bytes present the same assertion. -/
theorem repeated_assertion_repeats_bytes :
    ∃ (bytes : Vector UInt8 32) (early early' past past' : OAuthHistory),
      (∃ p, Path ((assertionCall "c").withSigner assertionSigner) early p) ∧
      (∃ p, Path ((assertionCall "d").withSigner assertionSigner) early' p) ∧
      early = ⟨.fillBytes 32, bytes⟩ :: past ∧ early' = ⟨.fillBytes 32, bytes⟩ :: past' := by
  obtain ⟨url, headers, form, early, next, waiting, presented⟩ :=
    assertionCall_posts (List.mem_cons_self : "c" ∈ ["c", "d"])
  obtain ⟨url', headers', form', early', next', waiting', presented'⟩ :=
    assertionCall_posts (List.mem_cons_of_mem _ List.mem_cons_self : "d" ∈ ["c", "d"])
  have verified : assertionLibrary.verify (tableToken 0) "k" [.es256] =
      .ok (ClientJwtPayload.json.write assertionPayload) := rfl
  obtain ⟨bytes, past, past', drawn, drawn'⟩ := client_assertion_unrepeated
    (tableLibrary_faithful _) assertionSigner (assertionCall "c") (assertionCall "d") waiting
    waiting' presented presented' verified
  exact ⟨bytes, early, early', past, past', ⟨_, waiting⟩, ⟨_, waiting'⟩, drawn, drawn'⟩

end AgqlAuth
