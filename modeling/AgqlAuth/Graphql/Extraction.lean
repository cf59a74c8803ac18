import AgqlAuth.Graphql.RefreshCookie

/-!
# What extraction takes out of a response

The search ends at the first candidate entry whose payload is incomplete, so a
later entry with a refresh token is found only behind complete ones.
-/

namespace AgqlAuth

open JsonValue

namespace GraphqlRefreshCookieConfig

variable (config : GraphqlRefreshCookieConfig)

/-- The entry has a session with these two strings. -/
def Carries (entry : JsonValue) (refreshToken refreshTokenExpiresAt : String) : Prop :=
  ∃ session, entry.get config.sessionField = some session ∧
    session.get config.refreshTokenField = some (.string refreshToken) ∧
    session.get config.refreshTokenExpiresAtField = some (.string refreshTokenExpiresAt)

def Complete (entry : JsonValue) : Prop :=
  ∃ refreshToken refreshTokenExpiresAt, config.Carries entry refreshToken refreshTokenExpiresAt

/-- A complete entry whose refresh token is not blank. -/
def Usable (entry : JsonValue) (refreshToken refreshTokenExpiresAt : String) : Prop :=
  config.Carries entry refreshToken refreshTokenExpiresAt ∧ (trim refreshToken).isEmpty = false

/-- Some usable entry stands behind complete entries only. -/
def Unobstructed (entries : List JsonValue) : Prop :=
  ∃ before entry after, entries = before ++ entry :: after ∧
    (∃ refreshToken expiresAt, config.Usable entry refreshToken expiresAt) ∧
    ∀ other ∈ before, config.Complete other

/-- The refresh token of an entry, whatever kind of value it is. -/
def refreshTokenOf (entry : JsonValue) : Option JsonValue :=
  (entry.get config.sessionField).bind (·.get config.refreshTokenField)

variable {config} {entry : JsonValue} {rest : List JsonValue}
variable {refreshToken expiresAt : String}

theorem findSetDirective_carries (carries : config.Carries entry refreshToken expiresAt) :
    config.findSetDirective (entry :: rest) =
      if (trim refreshToken).isEmpty then config.findSetDirective rest
      else some (.set refreshToken expiresAt) := by
  obtain ⟨session, entered, token, expiry⟩ := carries
  simp only [findSetDirective, entered, token, expiry, asStr, Option.bind_eq_bind, Option.bind_some]

theorem findSetDirective_blank (carries : config.Carries entry refreshToken expiresAt)
    (blank : (trim refreshToken).isEmpty = true) :
    config.findSetDirective (entry :: rest) = config.findSetDirective rest := by
  rw [findSetDirective_carries carries, if_pos blank]

theorem findSetDirective_usable (usable : config.Usable entry refreshToken expiresAt) :
    config.findSetDirective (entry :: rest) = some (.set refreshToken expiresAt) := by
  rw [findSetDirective_carries usable.1, usable.2]
  rfl

/-- A directive comes from a complete entry, and the search only passes complete ones. -/
theorem complete_of_findSetDirective {directive : GraphqlRefreshCookieDirective}
    (found : config.findSetDirective (entry :: rest) = some directive) : config.Complete entry := by
  unfold findSetDirective at found
  obtain ⟨session, entered, found⟩ := Option.bind_eq_some_iff.mp found
  obtain ⟨token, token_found, found⟩ := Option.bind_eq_some_iff.mp found
  obtain ⟨refreshToken, text, found⟩ := Option.bind_eq_some_iff.mp found
  obtain ⟨expiry, expiry_found, found⟩ := Option.bind_eq_some_iff.mp found
  obtain ⟨expiresAt, expiry_text, -⟩ := Option.bind_eq_some_iff.mp found
  have token_eq : token = .string refreshToken := by
    cases token <;> first | cases text; rfl | cases text
  have expiry_eq : expiry = .string expiresAt := by
    cases expiry <;> first | cases expiry_text; rfl | cases expiry_text
  exact ⟨refreshToken, expiresAt, session, entered, token_eq ▸ token_found, expiry_eq ▸ expiry_found⟩

theorem findSetDirective_eq_some {entries : List JsonValue}
    {directive : GraphqlRefreshCookieDirective}
    (found : config.findSetDirective entries = some directive) :
    config.Unobstructed entries ∧ ∃ entry ∈ entries, ∃ refreshToken expiresAt,
      config.Usable entry refreshToken expiresAt ∧ directive = .set refreshToken expiresAt := by
  induction entries with
  | nil => cases found
  | cons entry rest ih =>
      obtain ⟨refreshToken, expiresAt, carries⟩ := complete_of_findSetDirective found
      cases blank : (trim refreshToken).isEmpty with
      | true =>
          rw [findSetDirective_blank carries blank] at found
          obtain ⟨⟨before, usable_entry, after, rfl, usable, passed⟩, other, mem, facts⟩ := ih found
          refine ⟨⟨entry :: before, usable_entry, after, rfl, usable, ?_⟩, other,
            List.mem_cons_of_mem entry mem, facts⟩
          intro other mem
          rcases List.mem_cons.mp mem with rfl | mem
          · exact ⟨refreshToken, expiresAt, carries⟩
          · exact passed other mem
      | false =>
          have usable : config.Usable entry refreshToken expiresAt := ⟨carries, blank⟩
          rw [findSetDirective_usable usable] at found
          cases found
          refine ⟨⟨[], entry, rest, rfl, ⟨_, _, usable⟩, ?_⟩, entry, List.mem_cons_self, _, _,
            usable, rfl⟩
          intro other mem
          cases mem

theorem findSetDirective_of_unobstructed {entries : List JsonValue}
    (unobstructed : config.Unobstructed entries) :
    ∃ directive, config.findSetDirective entries = some directive := by
  obtain ⟨before, entry, after, rfl, ⟨refreshToken, expiresAt, usable⟩, passed⟩ := unobstructed
  induction before with
  | nil => exact ⟨_, findSetDirective_usable usable⟩
  | cons first before ih =>
      obtain ⟨token, expiry, carries⟩ := passed first List.mem_cons_self
      rw [List.cons_append]
      cases blank : (trim token).isEmpty with
      | true =>
          rw [findSetDirective_blank carries blank]
          exact ih fun other mem => passed other (List.mem_cons_of_mem first mem)
      | false => exact ⟨_, findSetDirective_usable ⟨carries, blank⟩⟩

variable (config) in
/-- Whatever the entry has for a refresh token is the empty string. -/
def Blanked (entry : JsonValue) : Prop :=
  ∀ token, config.refreshTokenOf entry = some token → token = .string ""

theorem blanked_sanitized (entry : JsonValue) :
    config.Blanked (config.sanitizeRefreshTokenEntry entry) := by
  intro token found
  unfold refreshTokenOf sanitizeRefreshTokenEntry at found
  rw [get_modify_self] at found
  obtain ⟨session, entered, found⟩ := Option.bind_eq_some_iff.mp found
  obtain ⟨original, -, rfl⟩ := Option.map_eq_some_iff.mp entered
  rw [get_modify_self] at found
  obtain ⟨previous, -, rfl⟩ := Option.map_eq_some_iff.mp found
  rfl

/-- Only paths through the refresh token see that an entry was sanitized. -/
theorem observe_sanitized {path : List String}
    (outside : ¬ [config.sessionField, config.refreshTokenField] <+: path) (entry : JsonValue) :
    observe path (config.sanitizeRefreshTokenEntry entry) = observe path entry := by
  apply observe_modify
  rintro inner rfl session
  apply observe_modify
  rintro deepest rfl token
  exact absurd ⟨deepest, rfl⟩ outside

variable {selectedFields : List GraphqlTopLevelField} {keys : List String} {data : JsonValue}

/-- Whichever keys are sanitized, in whatever order, their entries end up blanked. -/
theorem blanked_foldl {key : String}
    (blanked : key ∈ keys ∨ ∀ entry, data.get key = some entry → config.Blanked entry)
    {entry : JsonValue}
    (found : (keys.foldl (fun data key => data.modify key config.sanitizeRefreshTokenEntry)
      data).get key = some entry) : config.Blanked entry := by
  induction keys generalizing data with
  | nil => exact blanked.resolve_left List.not_mem_nil entry found
  | cons first keys ih =>
      refine ih ?_ found
      by_cases same : key = first
      · subst same
        refine .inr fun entry sanitized => ?_
        rw [get_modify_self] at sanitized
        obtain ⟨original, -, rfl⟩ := Option.map_eq_some_iff.mp sanitized
        exact blanked_sanitized original
      · rw [get_modify_ne same]
        rcases blanked with mem | blanked
        · exact .inl ((List.mem_cons.mp mem).resolve_left same)
        · exact .inr blanked

theorem observe_foldl {path : List String}
    (outside : ∀ key ∈ keys, ¬ [key, config.sessionField, config.refreshTokenField] <+: path) :
    observe path (keys.foldl (fun data key => data.modify key config.sanitizeRefreshTokenEntry)
      data) = observe path data := by
  induction keys generalizing data with
  | nil => rfl
  | cons key keys ih =>
      rw [List.foldl_cons, ih fun other mem => outside other (List.mem_cons_of_mem key mem)]
      apply observe_modify
      rintro inner rfl entry
      refine observe_sanitized (fun through => ?_) entry
      exact outside key List.mem_cons_self ((List.prefix_cons_inj key).mpr through)

end GraphqlRefreshCookieConfig

section Sanitizing

open GraphqlRefreshCookieConfig

variable {config : GraphqlRefreshCookieConfig} {selectedFields : List GraphqlTopLevelField}
variable {data entry : JsonValue} {path : List String}

/-- The path leads into the refresh token of a candidate entry. -/
def TokenPath (config : GraphqlRefreshCookieConfig) (selectedFields : List GraphqlTopLevelField)
    (path : List String) : Prop :=
  ∃ key, (selectedResponseKeys selectedFields config.issuingFields = [] ∨
      key ∈ selectedResponseKeys selectedFields config.issuingFields) ∧
    [key, config.sessionField, config.refreshTokenField] <+: path

theorem mem_candidates_keyed
    (keyed : selectedResponseKeys selectedFields config.issuingFields ≠ []) :
    entry ∈ candidateResponseEntries data selectedFields config.issuingFields ↔
      ∃ key ∈ selectedResponseKeys selectedFields config.issuingFields,
        data.get key = some entry := by
  have listed : (selectedResponseKeys selectedFields config.issuingFields).isEmpty = false := by
    simpa using keyed
  cases data with
  | object entries =>
      simp only [candidateResponseEntries, listed, Bool.false_eq_true, if_false, List.mem_filterMap]
  | _ => simp [candidateResponseEntries, JsonValue.get]

theorem mem_candidates_unkeyed
    (unkeyed : selectedResponseKeys selectedFields config.issuingFields = []) :
    entry ∈ candidateResponseEntries data selectedFields config.issuingFields ↔
      ∃ entries, data = .object entries ∧ entry ∈ entries.map Prod.snd := by
  cases data with
  | object entries =>
      simp only [candidateResponseEntries, unkeyed, List.isEmpty_nil, if_true,
        JsonValue.object.injEq, exists_eq_left']
  | _ => simp [candidateResponseEntries]

theorem blanked_candidate
    (candidate : entry ∈ candidateResponseEntries
      (sanitizeRefreshTokenFields data selectedFields config) selectedFields config.issuingFields) :
    config.Blanked entry := by
  by_cases unkeyed : selectedResponseKeys selectedFields config.issuingFields = []
  · obtain ⟨entries, sanitized, mem⟩ := (mem_candidates_unkeyed unkeyed).mp candidate
    have all : sanitizeRefreshTokenFields data selectedFields config =
        data.modifyAll config.sanitizeRefreshTokenEntry := if_pos (List.isEmpty_iff.mpr unkeyed)
    rw [all] at sanitized
    cases data with
    | object original =>
        cases sanitized
        simp only [List.map_map, List.mem_map, Function.comp_apply] at mem
        obtain ⟨⟨key, value⟩, -, rfl⟩ := mem
        exact blanked_sanitized value
    | _ => cases sanitized
  · obtain ⟨key, mem, found⟩ := (mem_candidates_keyed unkeyed).mp candidate
    have listed : ¬ (selectedResponseKeys selectedFields config.issuingFields).isEmpty = true :=
      mt List.isEmpty_iff.mp unkeyed
    rw [sanitizeRefreshTokenFields, if_neg listed] at found
    exact blanked_foldl (.inl mem) found

theorem observe_sanitizeFields (outside : ¬ TokenPath config selectedFields path) :
    observe path (sanitizeRefreshTokenFields data selectedFields config) = observe path data := by
  by_cases unkeyed : selectedResponseKeys selectedFields config.issuingFields = []
  · rw [sanitizeRefreshTokenFields, if_pos (List.isEmpty_iff.mpr unkeyed)]
    apply observe_modifyAll
    rintro key inner rfl entry
    refine observe_sanitized (fun through => outside ?_) entry
    exact ⟨key, .inl unkeyed, (List.prefix_cons_inj key).mpr through⟩
  · rw [sanitizeRefreshTokenFields, if_neg (mt List.isEmpty_iff.mp unkeyed)]
    refine observe_foldl fun key mem through => outside ?_
    exact ⟨key, .inr mem, through⟩

end Sanitizing

/-- Conversions that lose nothing in either direction. -/
structure GraphqlValues.Lossless (values : GraphqlValues) : Prop where
  through_json : ∀ value, ∃ json, values.intoJson value = some json ∧
    values.fromJson json = some value
  through_value : ∀ json, ∃ value, values.fromJson json = some value ∧
    values.intoJson value = some json

/-- A token was taken out of `data` and none is left in the response. -/
structure Extracted {values : GraphqlValues} (config : GraphqlRefreshCookieConfig)
    (selectedFields : List GraphqlTopLevelField) (data : JsonValue)
    (result : Option GraphqlRefreshCookieDirective × GraphqlResponse values) : Prop where
  set : ∃ entry ∈ candidateResponseEntries data selectedFields config.issuingFields,
    ∃ refreshToken expiresAt, config.Usable entry refreshToken expiresAt ∧
      result.1 = some (.set refreshToken expiresAt)
  sanitized : ∃ data', values.intoJson result.2.data = some data' ∧
    (∀ entry ∈ candidateResponseEntries data' selectedFields config.issuingFields,
      config.Blanked entry) ∧
    ∀ path, ¬ TokenPath config selectedFields path → observe path data' = observe path data
  errors : result.2.errors = []

section Directive

variable {values : GraphqlValues} {response : GraphqlResponse values}
variable {selectedFields : List GraphqlTopLevelField} {config : GraphqlRefreshCookieConfig}
variable {data : JsonValue}

/-- A search that finds nothing leaves at most the directive to clear. -/
theorem directive_of_none (errorFree : response.errors = [])
    (issuing : selectedFieldsMatch selectedFields config.issuingFields = true)
    (converted : values.intoJson response.data = some data)
    (unfound : findRefreshCookieSetDirective data selectedFields config = none)
    {refreshToken expiresAt : String} :
    (graphqlRefreshCookieDirective response selectedFields config).1 ≠
      some (.set refreshToken expiresAt) := by
  simp only [graphqlRefreshCookieDirective, errorFree, List.isEmpty_nil, Bool.not_true,
    Bool.false_eq_true, if_false, issuing, if_true, converted, unfound]
  split <;> simp

theorem directive_of_some {directive : GraphqlRefreshCookieDirective} {nextValue : values.Value}
    (errorFree : response.errors = [])
    (issuing : selectedFieldsMatch selectedFields config.issuingFields = true)
    (sanitizing : config.sanitizeResponse = true)
    (converted : values.intoJson response.data = some data)
    (found : findRefreshCookieSetDirective data selectedFields config = some directive)
    (restored : values.fromJson (sanitizeRefreshTokenFields data selectedFields config) =
      some nextValue) :
    graphqlRefreshCookieDirective response selectedFields config =
      (some directive, { response with data := nextValue }) := by
  simp only [graphqlRefreshCookieDirective, errorFree, List.isEmpty_nil, Bool.not_true,
    Bool.false_eq_true, if_false, issuing, if_true, converted, sanitizing, found, restored]

/--
From an error-free response a token is taken out, and none is left in it, exactly
if some usable candidate stands behind complete ones only.
-/
theorem refresh_cookie_extracted_iff (lossless : values.Lossless) (errorFree : response.errors = [])
    (issuing : selectedFieldsMatch selectedFields config.issuingFields = true)
    (sanitizing : config.sanitizeResponse = true)
    (converted : values.intoJson response.data = some data) :
    Extracted config selectedFields data
        (graphqlRefreshCookieDirective response selectedFields config) ↔
      config.Unobstructed
        (candidateResponseEntries data selectedFields config.issuingFields) := by
  constructor
  · intro extracted
    obtain ⟨entry, -, refreshToken, expiresAt, -, set⟩ := extracted.set
    cases found : findRefreshCookieSetDirective data selectedFields config with
    | none => exact absurd set (directive_of_none errorFree issuing converted found)
    | some directive => exact (GraphqlRefreshCookieConfig.findSetDirective_eq_some found).1
  · intro unobstructed
    obtain ⟨directive, found⟩ :=
      GraphqlRefreshCookieConfig.findSetDirective_of_unobstructed unobstructed
    obtain ⟨nextValue, restored, written⟩ :=
      lossless.through_value (sanitizeRefreshTokenFields data selectedFields config)
    rw [directive_of_some errorFree issuing sanitizing converted found restored]
    obtain ⟨entry, mem, refreshToken, expiresAt, usable, rfl⟩ :=
      (GraphqlRefreshCookieConfig.findSetDirective_eq_some found).2
    exact {
      set := ⟨entry, mem, refreshToken, expiresAt, usable, rfl⟩
      sanitized := ⟨_, written, fun entry => blanked_candidate, fun path => observe_sanitizeFields⟩
      errors := errorFree }

end Directive

/-- GraphQL values that are JSON values. -/
def jsonValues : GraphqlValues where
  Value := JsonValue
  intoJson := some
  fromJson := some

theorem jsonValues_lossless : jsonValues.Lossless where
  through_json json := ⟨json, rfl, rfl⟩
  through_value json := ⟨json, rfl, rfl⟩

def sessionPayload (refreshToken : String) : JsonValue :=
  .object [("session", .object [("refreshToken", .string refreshToken),
    ("refreshTokenExpiresAt", .string "2999-01-01T00:00:00Z")])]

/-- Two logins in one operation, with their aliases. -/
def twoLogins (first second : JsonValue) : GraphqlResponse jsonValues where
  data := JsonValue.object [("first", first), ("second", second)]
  errors := []

def loginFields : List GraphqlTopLevelField :=
  [⟨"authLogin", some "first"⟩, ⟨"authLogin", some "second"⟩]

def loginCookies : GraphqlRefreshCookieConfig where
  issuingFields := ["authLogin"]
  clearingFields := ["authLogout"]

theorem loginFields_candidates (first second : JsonValue) :
    candidateResponseEntries (twoLogins first second).data loginFields loginCookies.issuingFields =
      [first, second] := rfl

theorem sessionPayload_usable :
    loginCookies.Usable (sessionPayload "secret") "secret" "2999-01-01T00:00:00Z" :=
  ⟨⟨_, rfl, rfl, rfl⟩, by decide +kernel⟩

theorem twoLogins_extracted_iff :
    Extracted loginCookies loginFields (twoLogins (sessionPayload " ") (sessionPayload "secret")).data
        (graphqlRefreshCookieDirective (twoLogins (sessionPayload " ") (sessionPayload "secret"))
          loginFields loginCookies) ↔
      loginCookies.Unobstructed [sessionPayload " ", sessionPayload "secret"] :=
  refresh_cookie_extracted_iff jsonValues_lossless rfl rfl rfl rfl

/-- The payload of a failed login hides the token of the next one. -/
theorem failed_login_hides_token :
    (twoLogins .null (sessionPayload "secret")).errors = [] ∧
      selectedFieldsMatch loginFields loginCookies.issuingFields = true ∧
      loginCookies.sanitizeResponse = true ∧ jsonValues.Lossless ∧
      (∃ entry ∈ candidateResponseEntries (twoLogins .null (sessionPayload "secret")).data
        loginFields loginCookies.issuingFields, ∃ refreshToken expiresAt,
          loginCookies.Usable entry refreshToken expiresAt) ∧
      ¬ Extracted loginCookies loginFields (twoLogins .null (sessionPayload "secret")).data
        (graphqlRefreshCookieDirective (twoLogins .null (sessionPayload "secret")) loginFields
          loginCookies) := by
  refine ⟨rfl, rfl, rfl, jsonValues_lossless, ?_, fun extracted => ?_⟩
  · rw [loginFields_candidates]
    exact ⟨_, List.mem_cons_of_mem _ List.mem_cons_self, _, _, sessionPayload_usable⟩
  · obtain ⟨entry, -, refreshToken, expiresAt, -, set⟩ := extracted.set
    have unset : (graphqlRefreshCookieDirective (twoLogins .null (sessionPayload "secret"))
      loginFields loginCookies).1 = none := rfl
    cases unset.symm.trans set

end AgqlAuth
