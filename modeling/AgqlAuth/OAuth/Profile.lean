import AgqlAuth.OAuth.MemoryStore

/-!
# Whose email a profile calls verified

A fetched profile joins what the userinfo response says of its own email with what
the email list says of the address it selects.
-/

namespace AgqlAuth

open Interaction Program

/-- A request with the access token that was answered. -/
def answeredGet (url accessToken : String) (answer : JsonValue) : OAuthEvent :=
  ⟨.getJsonWithHeaders url [("Authorization", "Bearer " ++ accessToken), acceptJson],
    (.ok answer : AuthResult JsonValue)⟩

/-- The requests of a profile: the userinfo response, and the email list if it was asked. -/
inductive ProfileRequests (config : OAuth2ProviderConfig) (accessToken : String)
    (userinfo : JsonValue) : Option JsonValue → OAuthHistory → Prop where
  | userinfo : ProfileRequests config accessToken userinfo none
      [answeredGet config.userinfoEndpoint accessToken userinfo]
  | emailList {list : OAuth2VerifiedEmailList} {listed : JsonValue}
      (configured : config.verifiedEmailList = some list) :
      ProfileRequests config accessToken userinfo (some listed)
        [answeredGet list.endpoint accessToken listed,
          answeredGet config.userinfoEndpoint accessToken userinfo]

/-- The userinfo response has the email and says so of its verification. -/
structure StatedEmail (mapping : OAuth2ProfileMapping) (userinfo : JsonValue) (email : String)
    (verified : Bool) : Prop where
  email : mapping.email userinfo = some email
  verified : (∃ pointer, mapping.emailVerification = .pointer pointer ∧
      (userinfo.pointer pointer).bind parseEmailVerified = some verified) ∨
    mapping.emailVerification = .providerVerifiesAll ∧ verified = true

/-- An entry marked verified, and primary where that is asked. -/
structure Qualifies (list : OAuth2VerifiedEmailList) (entry : JsonValue) : Prop where
  verified : (entry.pointer list.verifiedPointer).bind parseEmailVerified = some true
  primary : list.selection = .primaryVerified → ∃ pointer, list.primaryPointer = some pointer ∧
    (entry.pointer pointer).bind parseEmailVerified = some true

/-- The email of the first qualified entry that has one. -/
def FirstQualified (list : OAuth2VerifiedEmailList) (entries : List JsonValue) (email : String) :
    Prop :=
  ∃ before entry after, entries = before ++ entry :: after ∧ Qualifies list entry ∧
    list.address entry = some email ∧
    ∀ other ∈ before, Qualifies list other → list.address other = none

/-- No qualified entry has an email. -/
def NoneQualified (list : OAuth2VerifiedEmailList) (entries : List JsonValue) : Prop :=
  ∀ entry ∈ entries, Qualifies list entry → list.address entry = none

/-- The email is that of the list. -/
def ListedEmail (config : OAuth2ProviderConfig) (listed : Option JsonValue) (email : String) :
    Prop :=
  ∃ list raw entries, config.verifiedEmailList = some list ∧ listed = some raw ∧
    list.entries raw = some entries ∧ FirstQualified list entries email

/-- What is guaranteed of the email of a profile. -/
structure SoundEmail (config : OAuth2ProviderConfig) (userinfo : JsonValue)
    (listed : Option JsonValue) (profile : OAuth2UserProfile) : Prop where
  verified : profile.emailVerified = some true → ∃ email, profile.email = some email ∧
    (StatedEmail config.profile userinfo email true ∨ ListedEmail config listed email)
  unverified : profile.emailVerified ≠ some true →
    profile.email = config.profile.email userinfo ∧
      (config.verifiedEmailList = none ∨
        ∃ list raw entries, config.verifiedEmailList = some list ∧ listed = some raw ∧
          list.entries raw = some entries ∧ NoneQualified list entries)
  /-- A flag is about the address it stands beside. -/
  attached : ∀ flag, profile.emailVerified = some flag → ∃ email, profile.email = some email ∧
    (StatedEmail config.profile userinfo email flag ∨
      ListedEmail config listed email ∧ flag = true)

theorem qualifies_iff {list : OAuth2VerifiedEmailList} {entry : JsonValue} :
    list.isVerified entry = true ∧ list.selects entry = true ↔ Qualifies list entry := by
  unfold OAuth2VerifiedEmailList.isVerified OAuth2VerifiedEmailList.selects
    OAuth2VerifiedEmailList.isTrue
  cases selection : list.selection with
  | firstVerified =>
      constructor
      · rintro ⟨verified, -⟩
        exact ⟨beq_iff_eq.mp verified, fun primary => by rw [selection] at primary; cases primary⟩
      · intro qualifies
        exact ⟨beq_iff_eq.mpr qualifies.verified, rfl⟩
  | primaryVerified =>
      constructor
      · rintro ⟨verified, primary⟩
        refine ⟨beq_iff_eq.mp verified, fun _ => ?_⟩
        obtain ⟨pointer, configured, marked⟩ := (Option.any_eq_true ..).mp primary
        exact ⟨pointer, configured, beq_iff_eq.mp marked⟩
      · intro qualifies
        obtain ⟨pointer, configured, marked⟩ := qualifies.primary selection
        exact ⟨beq_iff_eq.mpr qualifies.verified,
          (Option.any_eq_true ..).mpr ⟨pointer, configured, beq_iff_eq.mpr marked⟩⟩

section Selection

variable {list : OAuth2VerifiedEmailList} {entry : JsonValue} {entries : List JsonValue}
variable {email : String}

theorem FirstQualified.here (qualifies : Qualifies list entry)
    (usable : list.address entry = some email) :
    FirstQualified list (entry :: entries) email :=
  ⟨[], entry, entries, rfl, qualifies, usable, by simp⟩

theorem FirstQualified.later (passed : Qualifies list entry →
    list.address entry = none) (first : FirstQualified list entries email) :
    FirstQualified list (entry :: entries) email := by
  obtain ⟨before, found, after, rfl, qualifies, usable, earlier⟩ := first
  refine ⟨entry :: before, found, after, rfl, qualifies, usable, fun other mem => ?_⟩
  rcases List.mem_cons.mp mem with rfl | mem
  · exact passed
  · exact earlier other mem

theorem NoneQualified.cons (passed : Qualifies list entry →
    list.address entry = none) (none : NoneQualified list entries) :
    NoneQualified list (entry :: entries) := by
  intro other mem
  rcases List.mem_cons.mp mem with rfl | mem
  · exact passed
  · exact none other mem

/-- The scan selects the first qualified entry with an email, or there is none. -/
theorem selected_spec (list : OAuth2VerifiedEmailList) (entries : List JsonValue) :
    (∃ email, list.selected entries = some email ∧ FirstQualified list entries email) ∨
      list.selected entries = none ∧ NoneQualified list entries := by
  induction entries with
  | nil => exact .inr ⟨rfl, by simp [NoneQualified]⟩
  | cons entry rest ih =>
      have skip : (Qualifies list entry → list.address entry = none) →
          list.selected (entry :: rest) = list.selected rest := by
        intro passed
        unfold OAuth2VerifiedEmailList.selected
        by_cases verified : list.isVerified entry = true
        · rw [List.filter_cons_of_pos verified]
          by_cases selected : list.selects entry = true
          · rw [List.filter_cons_of_pos selected, List.findSome?_cons,
              passed (qualifies_iff.mp ⟨verified, selected⟩)]
          · rw [List.filter_cons_of_neg selected]
        · rw [List.filter_cons_of_neg verified]
      by_cases qualifies : Qualifies list entry
      · cases usable : list.address entry with
        | none =>
            rw [skip fun _ => usable]
            rcases ih with ⟨email, found, first⟩ | ⟨missed, none⟩
            · exact .inl ⟨email, found, first.later fun _ => usable⟩
            · exact .inr ⟨missed, none.cons fun _ => usable⟩
        | some email =>
            obtain ⟨verified, selected⟩ := qualifies_iff.mpr qualifies
            refine .inl ⟨email, ?_, .here qualifies usable⟩
            rw [OAuth2VerifiedEmailList.selected, List.filter_cons_of_pos verified,
              List.filter_cons_of_pos selected, List.findSome?_cons, usable]
      · rw [skip fun holds => absurd holds qualifies]
        rcases ih with ⟨email, found, first⟩ | ⟨missed, none⟩
        · exact .inl ⟨email, found, first.later fun holds => absurd holds qualifies⟩
        · exact .inr ⟨missed, none.cons fun holds => absurd holds qualifies⟩

/-- What the list makes of a response. -/
theorem select_spec {raw : JsonValue} {selected : Option String}
    (accepted : list.select raw = .ok selected) :
    ∃ entries, list.entries raw = some entries ∧
      ((∃ email, selected = some email ∧ FirstQualified list entries email) ∨
        selected = none ∧ NoneQualified list entries) := by
  unfold OAuth2VerifiedEmailList.select at accepted
  split at accepted
  case h_1 => cases accepted
  case h_2 entries listed =>
    split at accepted
    · cases accepted
    cases accepted
    exact ⟨entries, listed, selected_spec list entries⟩

end Selection

theorem statedEmail_of_emailVerified {mapping : OAuth2ProfileMapping} {userinfo : JsonValue}
    {flag : Bool} (said : mapping.emailVerified userinfo = some flag) :
    ∃ email, mapping.email userinfo = some email ∧ StatedEmail mapping userinfo email flag := by
  unfold OAuth2ProfileMapping.emailVerified at said
  split at said
  case isTrue => cases said
  case isFalse present =>
    obtain ⟨email, own⟩ : ∃ email, mapping.email userinfo = some email := by
      rcases own : mapping.email userinfo with _ | email
      · rw [own] at present
        exact absurd rfl present
      · exact ⟨email, rfl⟩
    refine ⟨email, own, own, ?_⟩
    cases source : mapping.emailVerification with
    | unknown =>
        rw [source] at said
        cases said
    | pointer pointer =>
        rw [source] at said
        exact .inl ⟨pointer, rfl, said⟩
    | providerVerifiesAll =>
        rw [source, own] at said
        cases said
        exact .inr ⟨rfl, rfl⟩

section Sound

variable {config : OAuth2ProviderConfig} {userinfo : JsonValue} {listed : Option JsonValue}
variable {profile : OAuth2UserProfile}

/-- The profile keeps what the userinfo response says. -/
theorem SoundEmail.of_stated (email : profile.email = config.profile.email userinfo)
    (verified : profile.emailVerified = config.profile.emailVerified userinfo)
    (missed : profile.emailVerified ≠ some true → config.verifiedEmailList = none ∨
      ∃ list raw entries, config.verifiedEmailList = some list ∧ listed = some raw ∧
        list.entries raw = some entries ∧ NoneQualified list entries) :
    SoundEmail config userinfo listed profile := by
  have attached : ∀ flag, profile.emailVerified = some flag → ∃ address,
      profile.email = some address ∧ StatedEmail config.profile userinfo address flag := by
    intro flag said
    obtain ⟨address, own, stated⟩ := statedEmail_of_emailVerified (verified ▸ said)
    exact ⟨address, email.trans own, stated⟩
  constructor
  case verified =>
    intro said
    obtain ⟨address, present, stated⟩ := attached true said
    exact ⟨address, present, .inl stated⟩
  case unverified => exact fun unsaid => ⟨email, missed unsaid⟩
  case attached =>
    intro flag said
    obtain ⟨address, present, stated⟩ := attached flag said
    exact ⟨address, present, .inl stated⟩

/-- The profile has the address that the list selects. -/
theorem SoundEmail.of_listed {address : String} (email : profile.email = some address)
    (verified : profile.emailVerified = some true) (selected : ListedEmail config listed address) :
    SoundEmail config userinfo listed profile := by
  constructor
  case verified => exact fun _ => ⟨address, email, .inr selected⟩
  case unverified => exact fun unsaid => absurd verified unsaid
  case attached =>
    intro flag said
    obtain rfl : flag = true := by
      injection said.symm.trans verified
    exact ⟨address, email, .inr ⟨selected, rfl⟩⟩

end Sound

/-- How a fetch ends. -/
def profilePost (config : OAuth2ProviderConfig) (accessToken : String) (h : OAuthHistory) :
    AuthResult OAuth2UserProfile → Prop
  | .ok profile => ∃ userinfo listed, ProfileRequests config accessToken userinfo listed h ∧
      SoundEmail config userinfo listed profile
  | .error _ => True

/-- A request that is answered is followed by its continuation. -/
theorem bearerGet_upholds {provider : OAuth2Provider} {url accessToken : String} {h : OAuthHistory}
    {α : Type} {post : OAuthHistory → AuthResult α → Prop} {f : JsonValue → OAuthM α}
    (next : ∀ answer, Upholds (S := oauthSignature) (fun _ _ => True) post
      (answeredGet url accessToken answer :: h) (f answer))
    (failed : ∀ h e, post h (.error e)) :
    Upholds (S := oauthSignature) (fun _ _ => True) post h
      (provider.bearerGet url accessToken >>= f : OAuthM α) := by
  apply Fallible.Upholds.bind
  apply Upholds.bind
  apply Upholds.await trivial
  rintro (e | answer)
  · exact failed _ _
  · exact next answer

theorem fetchProfile_upholds (provider : OAuth2Provider) (accessToken : String) :
    Upholds (S := oauthSignature) (fun _ _ => True) (profilePost provider.config accessToken) []
      (provider.fetchProfile accessToken) := by
  refine bearerGet_upholds (fun userinfo => ?_) fun _ _ => trivial
  refine Fallible.Upholds.branch (fun _ => trivial) fun _ => ?_
  refine Fallible.Upholds.lift_bind (fun subject _ => ?_) fun _ _ => trivial
  unfold OAuth2Provider.listedEmail
  split
  case isTrue verified =>
    exact ⟨userinfo, none, .userinfo, .of_stated rfl rfl fun unsaid => absurd verified unsaid⟩
  case isFalse =>
    split
    case h_1 unconfigured =>
      exact ⟨userinfo, none, .userinfo, .of_stated rfl rfl fun _ => .inl unconfigured⟩
    case h_2 list configured =>
      apply Fallible.Upholds.bind
      refine bearerGet_upholds (fun raw => ?_) fun _ _ => trivial
      cases outcome : list.select raw with
      | error e => trivial
      | ok selected =>
          obtain ⟨entries, listed, ⟨email, rfl, first⟩ | ⟨rfl, none⟩⟩ := select_spec outcome
          · exact ⟨userinfo, some raw, .emailList configured, .of_listed rfl rfl
              ⟨list, raw, entries, configured, rfl, listed, first⟩⟩
          · exact ⟨userinfo, some raw, .emailList configured, .of_stated rfl rfl fun _ =>
              .inr ⟨list, raw, entries, configured, rfl, listed, none⟩⟩

/--
A profile calls an email verified only for the address that was verified: its own
by the userinfo response, or the one that the email list selects.
-/
theorem verified_email_sound {provider : OAuth2Provider} {accessToken : String} {h : OAuthHistory}
    {profile : OAuth2UserProfile}
    (returned : Path (provider.fetchProfile accessToken) h (ret (.ok profile))) :
    ∃ userinfo listed, ProfileRequests provider.config accessToken userinfo listed h ∧
      SoundEmail provider.config userinfo listed profile :=
  (fetchProfile_upholds provider accessToken).post_of_path returned

section Samples

/-- The sample provider with a list of emails. -/
def listProvider : OAuth2Provider :=
  { sampleOAuth2Provider with
    config := { sampleOAuth2Provider.config with
      verifiedEmailList := some (.primaryVerified "https://acme.test/emails") } }

def listEntry (email : String) (verified : Bool) : JsonValue :=
  .object [("email", .string email), ("verified", .bool verified), ("primary", .bool true)]

/-- The userinfo email is not verified, and of the two listed ones the second is. -/
def profileAnswers : (op : oauthSignature.Op) → Option (oauthSignature.Resp op)
  | .getJsonWithHeaders url _ =>
      if url = "https://acme.test/emails" then
        some (.ok (.array [listEntry "old@acme.test" false, listEntry "ada@acme.test" true]) :
          AuthResult JsonValue)
      else
        some (.ok (.object [("sub", .string "ada"), ("email", .string "ada@home.test"),
          ("email_verified", .bool false)]) : AuthResult JsonValue)
  | _ => none

def isListedProfile : AuthResult OAuth2UserProfile → Bool
  | .ok profile => profile.email == some "ada@acme.test" && profile.emailVerified == some true
  | .error _ => false

/-- The verified address of the list is taken with its own verification. -/
theorem listed_email_sound :
    ∃ h profile, profile.email = some "ada@acme.test" ∧ profile.emailVerified = some true ∧
      ∃ userinfo listed, ProfileRequests listProvider.config "at" userinfo listed h ∧
        SoundEmail listProvider.config userinfo listed profile := by
  obtain ⟨h, result, path, passed⟩ := exists_path_of_finish (listProvider.fetchProfile "at")
    profileAnswers isListedProfile (by decide +kernel)
  rcases result with e | profile
  · cases passed
  · obtain ⟨email, verified⟩ : profile.email = some "ada@acme.test" ∧
        profile.emailVerified = some true := by
      simpa [isListedProfile] using passed
    exact ⟨h, profile, email, verified, verified_email_sound path⟩

end Samples

end AgqlAuth
