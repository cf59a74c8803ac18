import AgqlAuth.OAuth.MemoryStore
import Mathlib.Data.List.Nodup

/-!
# The query of an authorization URL

Where the query of a URL is, what its pairs decode to, and when the parameters of
an authorization request are in it.
-/

namespace AgqlAuth

/-- The text between the first question mark and the fragment. -/
def queryComponent (url : String) : Option String :=
  (splitOnce (.ofList (url.toList.takeWhile (· != '#'))) '?').map Prod.snd

/-- The key of a pair as it is written. -/
def encodedKey (pair : String) : String := ((splitOnce pair '=').map Prod.fst).getD pair

/-- The bytes of a key and of its value. -/
def decodedPair (pair : String) : List UInt8 × List UInt8 :=
  (percentDecodeBytes (utf8Bytes (encodedKey pair)),
    percentDecodeBytes (utf8Bytes (((splitOnce pair '=').map Prod.snd).getD "")))

/-- The pairs of the query of a URL, decoded. -/
def queryPairs (url : String) : List (List UInt8 × List UInt8) :=
  match queryComponent url with
  | none => []
  | some query => (splitAtChar query '&').map decodedPair

def parameterBytes (parameter : String × String) : List UInt8 × List UInt8 :=
  (utf8Bytes parameter.1, utf8Bytes parameter.2)

/--
The query of the authorization URL is the endpoint's own and then exactly the
parameters, and no reserved parameter is in it twice.
-/
structure FaithfulUrl (endpoint : String) (params : List (String × String)) : Prop where
  pairs : queryPairs (appendQuery endpoint params) =
    queryPairs endpoint ++ params.map parameterBytes
  once : ∀ name ∈ reservedAuthorizationParameters,
    ((queryPairs (appendQuery endpoint params)).map Prod.fst).count (utf8Bytes name) ≤ 1

theorem splitOnce_eq_none {s : String} {separator : Char} (absent : separator ∉ s.toList) :
    splitOnce s separator = none := by
  have kept : ∀ c ∈ s.toList, (c != separator) = true := by
    intro c mem
    exact bne_iff_ne.mpr fun same => absent (same ▸ mem)
  simp only [splitOnce, List.span_eq_takeWhile_dropWhile]
  rw [List.dropWhile_eq_nil_iff.mpr kept]

theorem splitOnce_append {s before after : String} {separator : Char}
    (whole : s.toList = before.toList ++ separator :: after.toList)
    (absent : separator ∉ before.toList) : splitOnce s separator = some (before, after) := by
  have kept : ∀ c ∈ before.toList, (c != separator) = true := by
    intro c mem
    exact bne_iff_ne.mpr fun same => absent (same ▸ mem)
  obtain ⟨front, back⟩ := takeWhile_of_stop (p := (· != separator)) before.toList
    (separator :: after.toList) kept (by simp)
  simp only [splitOnce, List.span_eq_takeWhile_dropWhile, whole, front, back, String.ofList_toList]

theorem suffix_of_splitOnce {s before after : String} {separator : Char}
    (split : splitOnce s separator = some (before, after)) : after.toList <:+ s.toList := by
  simp only [splitOnce, List.span_eq_takeWhile_dropWhile] at split
  cases rest : s.toList.dropWhile (· != separator) with
  | nil =>
      rw [rest] at split
      cases split
  | cons c chars =>
      rw [rest] at split
      cases split
      rw [String.toList_ofList]
      exact (List.suffix_cons c chars).trans (rest ▸ List.dropWhile_suffix _)

theorem exists_split {s : String} {separator : Char} (present : separator ∈ s.toList) :
    ∃ before after : String, s.toList = before.toList ++ separator :: after.toList ∧
      separator ∉ before.toList := by
  obtain ⟨before, after, whole, absent⟩ := List.eq_append_cons_of_mem present
  exact ⟨.ofList before, .ofList after, by simpa using whole, by simpa using absent⟩

def encodedParameter (parameter : String × String) : String :=
  percentEncode queryKept parameter.1 ++ "=" ++ percentEncode queryKept parameter.2

/-- The characters that delimit a query, its pairs or their parts. -/
def isDelimiter (c : Char) : Bool := c == '&' || c == '=' || c == '#'

theorem not_delimiter_of_mem {s : String} {c : Char}
    (mem : c ∈ (percentEncode queryKept s).toList) : isDelimiter c = false := by
  have bytes : ∀ n < 256,
      (encodedByte queryKept (UInt8.ofNat n)).all (!isDelimiter ·) = true := by
    decide +kernel
  rw [percentEncode_eq, String.toList_ofList] at mem
  obtain ⟨byte, -, mem⟩ := List.mem_flatMap.mp mem
  have plain := bytes byte.toNat byte.toNat_lt
  rw [UInt8.ofNat_toNat] at plain
  simpa using List.all_eq_true.mp plain c mem

theorem queryKept_ascii (byte : UInt8) (kept : queryKept byte = true) : byte.toNat < 128 := by
  simp only [queryKept, asciiAlphanumeric, Bool.or_eq_true, Bool.and_eq_true, decide_eq_true_eq,
    beq_iff_eq] at kept
  rcases kept with (((((digits | upper) | lower) | rfl) | rfl) | rfl) | rfl
  · omega
  · omega
  · omega
  all_goals decide

/-- A parameter is read back as it was given. -/
theorem decodedPair_encodedParameter (parameter : String × String) :
    decodedPair (encodedParameter parameter) = parameterBytes parameter := by
  have whole : (encodedParameter parameter).toList = (percentEncode queryKept parameter.1).toList ++
      '=' :: (percentEncode queryKept parameter.2).toList := by
    simp [encodedParameter]
  have absent : '=' ∉ (percentEncode queryKept parameter.1).toList := by
    intro mem
    have plain := not_delimiter_of_mem mem
    cases plain
  have split := splitOnce_append whole absent
  have decoded : ∀ s, percentDecodeBytes (utf8Bytes (percentEncode queryKept s)) = utf8Bytes s :=
    percentDecodeBytes_percentEncode queryKept_ascii rfl
  simp only [decodedPair, encodedKey, split, Option.map_some, Option.getD_some, decoded,
    parameterBytes]

theorem encodedParameter_plain {parameter : String × String} {c : Char}
    (mem : c ∈ (encodedParameter parameter).toList) : c ≠ '&' ∧ c ≠ '#' := by
  simp only [encodedParameter, String.toList_append, List.mem_append] at mem
  rcases mem with (key | equals) | value
  · have plain := not_delimiter_of_mem key
    constructor <;> rintro rfl <;> cases plain
  · have sign : c = '=' := by simpa using equals
    subst sign
    decide
  · have plain := not_delimiter_of_mem value
    constructor <;> rintro rfl <;> cases plain

/-- What `append_query` writes after the separator. -/
def parameterQuery (params : List (String × String)) : String :=
  "&".intercalate (params.map encodedParameter)

theorem appendQuery_toList (endpoint : String) (params : List (String × String)) :
    (appendQuery endpoint params).toList = endpoint.toList ++
      (if '?' ∈ endpoint.toList then '&' else '?') :: (parameterQuery params).toList := by
  have whole : appendQuery endpoint params =
      endpoint ++ (if '?' ∈ endpoint.toList then "&" else "?") ++ parameterQuery params := rfl
  rw [whole, String.toList_append, String.toList_append]
  split
  · simp
  · simp

theorem splitAtChar_parameterQuery {params : List (String × String)} (nonempty : params ≠ []) :
    (splitAtChar (parameterQuery params) '&').map decodedPair = params.map parameterBytes := by
  have plain : ∀ part ∈ params.map encodedParameter, '&' ∉ part.toList := by
    intro part listed mem
    obtain ⟨parameter, -, rfl⟩ := List.mem_map.mp listed
    exact (encodedParameter_plain mem).1 rfl
  have split : splitAtChar (parameterQuery params) '&' = params.map encodedParameter :=
    splitAtChar_intercalate plain (by simpa using nonempty)
  rw [split, List.map_map]
  exact List.map_congr_left fun parameter _ => decodedPair_encodedParameter parameter

theorem not_mem_intercalate {c separator : Char} {parts : List (List Char)} (other : c ≠ separator)
    (plain : ∀ part ∈ parts, c ∉ part) : c ∉ [separator].intercalate parts := by
  induction parts with
  | nil => exact List.not_mem_nil
  | cons part rest ih =>
      have first := plain part List.mem_cons_self
      have others := ih fun later mem => plain later (List.mem_cons_of_mem _ mem)
      cases rest with
      | nil => simpa using first
      | cons next rest =>
          rw [List.intercalate_cons_cons]
          simp [first, other, others]

theorem parameterQuery_plain (params : List (String × String)) :
    '#' ∉ (parameterQuery params).toList := by
  rw [parameterQuery, String.toList_intercalate]
  refine not_mem_intercalate (by decide) fun part listed mem => ?_
  obtain ⟨text, encoded, rfl⟩ := List.mem_map.mp listed
  obtain ⟨parameter, -, rfl⟩ := List.mem_map.mp encoded
  exact (encodedParameter_plain mem).2 rfl

theorem queryComponent_of_plain {url : String} (plain : '#' ∉ url.toList) :
    queryComponent url = (splitOnce url '?').map Prod.snd := by
  have kept : ∀ c ∈ url.toList, (c != '#') = true := by
    intro c mem
    exact bne_iff_ne.mpr fun same => plain (same ▸ mem)
  rw [queryComponent, List.takeWhile_eq_self_iff.mpr kept, String.ofList_toList]

theorem appendQuery_plain {endpoint : String} (plain : '#' ∉ endpoint.toList)
    (params : List (String × String)) : '#' ∉ (appendQuery endpoint params).toList := by
  rw [appendQuery_toList]
  intro mem
  rcases List.mem_append.mp mem with own | added
  · exact plain own
  rcases List.mem_cons.mp added with same | encoded
  · split at same <;> exact absurd same (by decide)
  · exact parameterQuery_plain params encoded

/-- Without a fragment the pairs of the endpoint are followed by the parameters. -/
theorem queryPairs_appendQuery {endpoint : String} (plain : '#' ∉ endpoint.toList)
    {params : List (String × String)} (nonempty : params ≠ []) :
    queryPairs (appendQuery endpoint params) =
      queryPairs endpoint ++ params.map parameterBytes := by
  have whole := appendQuery_toList endpoint params
  simp only [queryPairs, queryComponent_of_plain plain,
    queryComponent_of_plain (appendQuery_plain plain params)]
  by_cases queried : '?' ∈ endpoint.toList
  · rw [if_pos queried] at whole
    obtain ⟨before, query, own, absent⟩ := exists_split queried
    have longer : (appendQuery endpoint params).toList =
        before.toList ++ '?' :: (query ++ "&" ++ parameterQuery params).toList := by
      rw [whole, own]
      simp
    have joined : (query ++ "&" ++ parameterQuery params).toList =
        query.toList ++ '&' :: (parameterQuery params).toList := by
      simp
    rw [splitOnce_append own absent, splitOnce_append longer absent]
    simp only [Option.map_some, splitAtChar_append joined, List.map_append,
      splitAtChar_parameterQuery nonempty]
  · rw [if_neg queried] at whole
    rw [splitOnce_eq_none queried, splitOnce_append whole queried]
    simp only [Option.map_some, Option.map_none, List.nil_append,
      splitAtChar_parameterQuery nonempty]

/-- Behind a fragment the parameters are not in the query. -/
theorem queryPairs_appendQuery_of_fragment {endpoint : String} (fragment : '#' ∈ endpoint.toList)
    (params : List (String × String)) :
    queryPairs (appendQuery endpoint params) = queryPairs endpoint := by
  obtain ⟨before, after, whole, absent⟩ := exists_split fragment
  have kept : ∀ c ∈ before.toList, (c != '#') = true := by
    intro c mem
    exact bne_iff_ne.mpr fun same => absent (same ▸ mem)
  have cut : ∀ rest : List Char, (before.toList ++ '#' :: rest).takeWhile (· != '#') =
      before.toList :=
    fun rest => (takeWhile_of_stop before.toList ('#' :: rest) kept (by simp)).1
  simp only [queryPairs, queryComponent, appendQuery_toList, whole, List.append_assoc,
    List.cons_append, cut]

/-- The keys are reserved ones, each at most once. -/
def ReservedOnce (params : List (String × String)) : Prop :=
  (params.map Prod.fst).Sublist reservedAuthorizationParameters

theorem unreserved_of_ensure {endpoint : String} (plain : '#' ∉ endpoint.toList)
    (accepted : ensureNoReservedAuthorizationParameters endpoint = .ok ()) {name : String}
    (reserved : name ∈ reservedAuthorizationParameters) :
    utf8Bytes name ∉ (queryPairs endpoint).map Prod.fst := by
  unfold ensureNoReservedAuthorizationParameters at accepted
  rw [queryPairs, queryComponent_of_plain plain]
  cases split : splitOnce endpoint '?' with
  | none => exact List.not_mem_nil
  | some parts =>
      obtain ⟨before, query⟩ := parts
      have plain_query : ∀ c ∈ query.toList, (c == '#') = false := by
        intro c mem
        exact beq_eq_false_iff_ne.mpr fun same =>
          plain (same ▸ (suffix_of_splitOnce split).subset mem)
      have unfragmented : (splitAtChar query '#').headD "" = query := by
        rw [splitAtChar, List.splitOn_eq_splitOnP, List.splitOnP_eq_singleton plain_query]
        exact String.ofList_toList
      rw [split] at accepted
      simp only [unfragmented] at accepted
      have unreserved := (Except.ite_error_eq_ok_iff.mp accepted).1
      intro mem
      obtain ⟨decoded, listed, same⟩ := List.mem_map.mp mem
      obtain ⟨pair, among, rfl⟩ := List.mem_map.mp listed
      refine unreserved (List.any_eq_true.mpr ⟨pair, among, ?_⟩)
      exact List.any_eq_true.mpr ⟨name, reserved, beq_iff_eq.mpr same.symm⟩

theorem count_le_one_of_reservedOnce {params : List (String × String)} (once : ReservedOnce params)
    (bytes : List UInt8) : ((params.map parameterBytes).map Prod.fst).count bytes ≤ 1 := by
  have distinct : (reservedAuthorizationParameters.map utf8Bytes).Nodup := by decide +kernel
  have keys : (params.map parameterBytes).map Prod.fst = (params.map Prod.fst).map utf8Bytes := by
    simp [parameterBytes, Function.comp_def]
  rw [keys]
  exact List.nodup_iff_count_le_one.mp (distinct.sublist (once.map utf8Bytes)) bytes

/-- The parameters are in the query exactly when the endpoint has no fragment. -/
theorem faithfulUrl_iff {endpoint : String} {params : List (String × String)}
    (accepted : ensureNoReservedAuthorizationParameters endpoint = .ok ())
    (once : ReservedOnce params) (nonempty : params ≠ []) :
    FaithfulUrl endpoint params ↔ '#' ∉ endpoint.toList := by
  constructor
  · intro faithful fragment
    have pairs := faithful.pairs
    rw [queryPairs_appendQuery_of_fragment fragment] at pairs
    have none : params = [] := by simpa using List.self_eq_append_right.mp pairs
    exact nonempty none
  · intro plain
    have pairs := queryPairs_appendQuery plain nonempty
    refine ⟨pairs, fun name reserved => ?_⟩
    rw [pairs, List.map_append, List.count_append,
      List.count_eq_zero_of_not_mem (unreserved_of_ensure plain accepted reserved), Nat.zero_add]
    exact count_le_one_of_reservedOnce once _

theorem sublist_of_filterMap {α β : Type} (added : List (α × Option β)) :
    ((added.filterMap fun (name, value) => value.map (name, ·)).map Prod.fst).Sublist
      (added.map Prod.fst) := by
  induction added with
  | nil => exact List.Sublist.refl []
  | cons entry rest ih =>
      obtain ⟨name, value⟩ := entry
      cases value with
      | none => exact ih.cons name
      | some value => exact ih.cons_cons name

theorem OidcProvider.authorizationParameters_reservedOnce {provider : OidcProvider}
    {state nonce : String} {pkce : PkcePair} {policy : Option OidcAuthorizationPolicy}
    {params : List (String × String)}
    (built : provider.authorizationParameters state nonce pkce policy = .ok params) :
    ReservedOnce params ∧ params ≠ [] := by
  cases policy with
  | none =>
      cases built
      exact ⟨by simp [ReservedOnce, reservedAuthorizationParameters], by simp⟩
  | some policy =>
      obtain ⟨claims, -, built⟩ := Except.exists_of_bind_eq_ok built
      cases built
      refine ⟨?_, by simp⟩
      rw [ReservedOnce, List.map_append]
      exact List.Sublist.append (List.Sublist.refl _) (sublist_of_filterMap _)

theorem OAuth2Provider.authorizationParameters_reservedOnce (provider : OAuth2Provider)
    (state : String) (pkce : PkcePair) :
    ReservedOnce (provider.authorizationParameters state pkce) ∧
      provider.authorizationParameters state pkce ≠ [] := by
  refine ⟨?_, by simp [OAuth2Provider.authorizationParameters]⟩
  unfold ReservedOnce OAuth2Provider.authorizationParameters
  split
  · simp only [List.map_append, List.map_cons, List.map_nil]
    decide
  · simp only [List.map_append, List.map_cons, List.map_nil]
    decide

theorem OAuth2ProviderConfig.unreserved_of_validate {config : OAuth2ProviderConfig}
    (accepted : config.validate = .ok ()) :
    ensureNoReservedAuthorizationParameters config.authorizationEndpoint = .ok () := by
  obtain ⟨⟨⟩, -, accepted⟩ := Except.exists_of_bind_eq_ok accepted
  obtain ⟨⟨⟩, -, accepted⟩ := Except.exists_of_bind_eq_ok accepted
  obtain ⟨⟨⟩, -, accepted⟩ := Except.exists_of_bind_eq_ok accepted
  obtain ⟨⟨⟩, -, accepted⟩ := Except.exists_of_bind_eq_ok accepted
  obtain ⟨⟨⟩, -, accepted⟩ := Except.exists_of_bind_eq_ok accepted
  obtain ⟨⟨⟩, -, accepted⟩ := Except.exists_of_bind_eq_ok accepted
  obtain ⟨⟨⟩, unreserved, -⟩ := Except.exists_of_bind_eq_ok accepted
  cases ensured : ensureNoReservedAuthorizationParameters config.authorizationEndpoint with
  | ok value => rfl
  | error e =>
      rw [ensured] at unreserved
      cases unreserved

/--
The parameters of every request are exactly what follows the endpoint's own query,
as long as the endpoint has no fragment; behind a fragment they are not in the query.
-/
theorem authorization_url_faithful_iff (oidc : OidcProvider) (oauth2 : OAuth2Provider)
    (state : String) (pkce : PkcePair) :
    (∀ nonce policy params endpoint,
      oidc.authorizationParameters state nonce pkce policy = .ok params →
      ensureNoReservedAuthorizationParameters endpoint = .ok () →
      (FaithfulUrl endpoint params ↔ '#' ∉ endpoint.toList)) ∧
    (oauth2.config.validate = .ok () →
      (FaithfulUrl oauth2.config.authorizationEndpoint
        (oauth2.authorizationParameters state pkce) ↔
          '#' ∉ oauth2.config.authorizationEndpoint.toList)) := by
  constructor
  · intro nonce policy params endpoint built accepted
    obtain ⟨once, nonempty⟩ := OidcProvider.authorizationParameters_reservedOnce built
    exact faithfulUrl_iff accepted once nonempty
  · intro accepted
    obtain ⟨once, nonempty⟩ := oauth2.authorizationParameters_reservedOnce state pkce
    exact faithfulUrl_iff (OAuth2ProviderConfig.unreserved_of_validate accepted) once nonempty

/-- The endpoint of the sample provider with a fragment. -/
def fragmentProvider : OAuth2Provider :=
  { sampleOAuth2Provider with
    config := { sampleOAuth2Provider.config with
      authorizationEndpoint := "https://acme.test/authorize#login" } }

/-- The configuration is accepted, and no parameter is in the query. -/
theorem fragment_swallows_parameters :
    fragmentProvider.config.validate = .ok () ∧
      queryPairs (appendQuery fragmentProvider.config.authorizationEndpoint
        (fragmentProvider.authorizationParameters "s" ⟨"v", "c"⟩)) = [] ∧
      ¬ FaithfulUrl fragmentProvider.config.authorizationEndpoint
        (fragmentProvider.authorizationParameters "s" ⟨"v", "c"⟩) := by
  have fragment : '#' ∈ fragmentProvider.config.authorizationEndpoint.toList := by decide
  have swallowed : queryPairs (appendQuery fragmentProvider.config.authorizationEndpoint
      (fragmentProvider.authorizationParameters "s" ⟨"v", "c"⟩)) = [] :=
    (queryPairs_appendQuery_of_fragment fragment _).trans (by decide)
  refine ⟨by decide +kernel, swallowed, fun faithful => ?_⟩
  have pairs := faithful.pairs
  rw [swallowed] at pairs
  have counted := congrArg List.length pairs
  simp [OAuth2Provider.authorizationParameters] at counted

end AgqlAuth
