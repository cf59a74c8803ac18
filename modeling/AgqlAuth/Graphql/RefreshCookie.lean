import AgqlAuth.Base.Text
import AgqlAuth.Json.Paths

/-!
# Refresh-cookie extraction

The transport helper that takes a refresh token out of a GraphQL response.
-/

namespace AgqlAuth

structure GraphqlTopLevelField where
  schemaField : String
  responseKey : Option String := none

structure GraphqlRefreshCookieConfig where
  issuingFields : List String
  clearingFields : List String
  sessionField : String := "session"
  refreshTokenField : String := "refreshToken"
  refreshTokenExpiresAtField : String := "refreshTokenExpiresAt"
  sanitizeResponse : Bool := true

inductive GraphqlRefreshCookieDirective where
  | set (refreshToken refreshTokenExpiresAt : String)
  | clear
  deriving DecidableEq

/-- `async_graphql::Value` as far as the helper uses it: its conversions to and from JSON. -/
structure GraphqlValues where
  Value : Type
  intoJson : Value → Option JsonValue
  fromJson : JsonValue → Option Value

/-- The two parts of a response the helper looks at; an error is its message. -/
structure GraphqlResponse (values : GraphqlValues) where
  data : values.Value
  errors : List String

namespace JsonValue

def asStr : JsonValue → Option String
  | .string text => some text
  | _ => none

end JsonValue

def selectedFieldsMatch (selectedFields : List GraphqlTopLevelField) (fieldNames : List String) :
    Bool :=
  selectedFields.any fun field => fieldNames.any (· == field.schemaField)

def selectedResponseKeys (selectedFields : List GraphqlTopLevelField) (fieldNames : List String) :
    List String :=
  (selectedFields.filter fun field => fieldNames.any (· == field.schemaField)).filterMap
    (·.responseKey)

/-- Without response keys every top-level entry is a candidate. -/
def candidateResponseEntries (data : JsonValue) (selectedFields : List GraphqlTopLevelField)
    (fieldNames : List String) : List JsonValue :=
  match data with
  | .object entries =>
      let responseKeys := selectedResponseKeys selectedFields fieldNames
      if responseKeys.isEmpty then entries.map Prod.snd
      else responseKeys.filterMap fun key => data.get key
  | _ => []

namespace GraphqlRefreshCookieConfig

/--
The loop of `find_refresh_cookie_set_directive`; each lookup that finds nothing
returns from the whole search.
-/
def findSetDirective (self : GraphqlRefreshCookieConfig) :
    List JsonValue → Option GraphqlRefreshCookieDirective
  | [] => none
  | entry :: rest => do
      let session ← entry.get self.sessionField
      let refreshToken ← (← session.get self.refreshTokenField).asStr
      let refreshTokenExpiresAt ← (← session.get self.refreshTokenExpiresAtField).asStr
      if (trim refreshToken).isEmpty then self.findSetDirective rest
      else some (.set refreshToken refreshTokenExpiresAt)

def sanitizeRefreshTokenEntry (self : GraphqlRefreshCookieConfig) (entry : JsonValue) :
    JsonValue :=
  entry.modify self.sessionField fun session =>
    session.modify self.refreshTokenField fun _ => .string ""

end GraphqlRefreshCookieConfig

def findRefreshCookieSetDirective (data : JsonValue) (selectedFields : List GraphqlTopLevelField)
    (config : GraphqlRefreshCookieConfig) : Option GraphqlRefreshCookieDirective :=
  config.findSetDirective (candidateResponseEntries data selectedFields config.issuingFields)

def sanitizeRefreshTokenFields (data : JsonValue) (selectedFields : List GraphqlTopLevelField)
    (config : GraphqlRefreshCookieConfig) : JsonValue :=
  let responseKeys := selectedResponseKeys selectedFields config.issuingFields
  if responseKeys.isEmpty then data.modifyAll config.sanitizeRefreshTokenEntry
  else responseKeys.foldl (fun data key => data.modify key config.sanitizeRefreshTokenEntry) data

/-- The directive, and the response as the call leaves it. -/
def graphqlRefreshCookieDirective {values : GraphqlValues} (response : GraphqlResponse values)
    (selectedFields : List GraphqlTopLevelField) (config : GraphqlRefreshCookieConfig) :
    Option GraphqlRefreshCookieDirective × GraphqlResponse values :=
  let clearing := if selectedFieldsMatch selectedFields config.clearingFields then
    some GraphqlRefreshCookieDirective.clear else none
  if !response.errors.isEmpty then (none, response)
  else if selectedFieldsMatch selectedFields config.issuingFields then
    match values.intoJson response.data with
    | none => (none, response)
    | some data =>
        match findRefreshCookieSetDirective data selectedFields config with
        | none => (clearing, response)
        | some directive =>
            if config.sanitizeResponse then
              match values.fromJson (sanitizeRefreshTokenFields data selectedFields config) with
              | none => (some directive, response)
              | some nextValue => (some directive, { response with data := nextValue })
            else (some directive, response)
  else (clearing, response)

end AgqlAuth
