import AgqlAuth.Model.Session

/-!
# Endpoint URLs

`validate_endpoint`, which splits a configured URL by hand, against the parts
that the URL grammar gives it.  Over `http` only loopback hosts are meant to pass.
-/

namespace AgqlAuth

def splitOnceChars (separator : List Char) : List Char → Option (List Char × List Char)
  | [] => none
  | c :: rest =>
      match (c :: rest).dropPrefix? separator with
      | some after => some ([], after)
      | none => (splitOnceChars separator rest).map fun (before, after) => (c :: before, after)

/-- `str::split_once` at a text that is not empty. -/
def splitOnceText (s separator : String) : Option (String × String) :=
  (splitOnceChars separator.toList s.toList).map fun (before, after) =>
    (.ofList before, .ofList after)

/-- The first piece of `str::split`. -/
def firstPiece (isSeparator : Char → Bool) (s : String) : String :=
  .ofList (s.toList.takeWhile fun c => !isSeparator c)

def endsAuthority (c : Char) : Bool := c == '/' || c == '?' || c == '#'

def endpointHost (authority : String) : String :=
  match stripPrefix authority "[" with
  | some bracketed => firstPiece (· == ']') bracketed
  | none => firstPiece (· == ':') authority

def loopbackHost (host : String) : Bool :=
  eqIgnoreAsciiCase host "localhost" || host == "127.0.0.1" || host == "::1"

def validateEndpoint (name value : String) : AuthResult Unit :=
  let invalid := .error (.invalidConfiguration
    ("OAuth 2.0 " ++ name ++ " must be an https URL (http only for loopback hosts)"))
  if value.toList.any fun c => isWhitespace c || isControl c then invalid
  else
    match splitOnceText value "://" with
    | none => invalid
    | some (scheme, remainder) =>
        let authority := firstPiece endsAuthority remainder
        if authority.isEmpty || authority.toList.contains '@' then invalid
        else
          let host := endpointHost authority
          if host.isEmpty then invalid
          else if eqIgnoreAsciiCase scheme "https" then .ok ()
          else if eqIgnoreAsciiCase scheme "http" && loopbackHost host then .ok ()
          else invalid

/-- A URL with an authority: the scheme, the authority, and the path, query and fragment. -/
structure UrlParts (value scheme authority tail : String) : Prop where
  whole : value.toList = scheme.toList ++ "://".toList ++ authority.toList ++ tail.toList
  scheme_plain : ':' ∉ scheme.toList
  authority_plain : ∀ c ∈ authority.toList, endsAuthority c = false
  tail_start : ∀ c, tail.toList.head? = some c → endsAuthority c = true

/-- One or more decimal digits. -/
def DecimalPort (port : List Char) : Prop := port ≠ [] ∧ ∀ c ∈ port, c.isDigit = true

/-- Nothing, or a colon and a decimal port. -/
def PortSuffix (rest : List Char) : Prop :=
  rest = [] ∨ ∃ port, rest = ':' :: port ∧ DecimalPort port

/-- A loopback name that stands without brackets. -/
def LoopbackName (name : List Char) : Prop :=
  eqIgnoreAsciiCase (.ofList name) "localhost" = true ∨ name = "127.0.0.1".toList

/-- Exactly a loopback host with at most a port. -/
def LoopbackAuthority (authority : List Char) : Prop :=
  ∃ host rest, authority = host ++ rest ∧ (LoopbackName host ∨ host = "[::1]".toList) ∧
    PortSuffix rest

/-- A first character of a host: inside brackets, or else before any port. -/
inductive HasHost : List Char → Prop where
  | bracketed {c : Char} {rest : List Char} (inner : c ≠ ']') : HasHost ('[' :: c :: rest)
  | named {c : Char} {rest : List Char} (open_ : c ≠ '[') (host : c ≠ ':') : HasHost (c :: rest)

/-- The endpoints that may be configured. -/
structure AdmissibleEndpoint (value : String) : Prop where
  plain : ∀ c ∈ value.toList, isWhitespace c = false ∧ isControl c = false
  parts : ∃ scheme authority tail, UrlParts value scheme authority tail ∧
    '@' ∉ authority.toList ∧
    (eqIgnoreAsciiCase scheme "https" = true ∧ HasHost authority.toList ∨
      eqIgnoreAsciiCase scheme "http" = true ∧ LoopbackAuthority authority.toList)

/--
Authorities in which the check finds a loopback host although they are not one:
a loopback name in brackets, `::1` in brackets that are not closed or are followed
by something else than a port, and a name followed by something else than a port.
-/
inductive LooseAuthority : List Char → Prop where
  | bracketedName {name rest : List Char} (loopback : LoopbackName name)
      (closed : rest = [] ∨ rest.head? = some ']') : LooseAuthority ('[' :: name ++ rest)
  | unclosed : LooseAuthority "[::1".toList
  | afterBracket {rest : List Char} (junk : ¬ PortSuffix rest) :
      LooseAuthority ("[::1]".toList ++ rest)
  | notAPort {name port : List Char} (loopback : LoopbackName name) (junk : ¬ DecimalPort port) :
      LooseAuthority (name ++ ':' :: port)

/-- A plain `http` URL without userinfo whose authority only passes for a loopback one. -/
def LooseEndpoint (value : String) : Prop :=
  (∀ c ∈ value.toList, isWhitespace c = false ∧ isControl c = false) ∧
    ∃ scheme authority tail, UrlParts value scheme authority tail ∧
      '@' ∉ authority.toList ∧ eqIgnoreAsciiCase scheme "http" = true ∧
      LooseAuthority authority.toList

theorem dropPrefix?_iff {chars start rest : List Char} :
    chars.dropPrefix? start = some rest ↔ chars = start ++ rest := by
  simp only [List.dropPrefix?_eq_some_iff, beq_iff_eq]
  constructor
  · rintro ⟨first, whole, rfl⟩
    exact whole
  · intro whole
    exact ⟨start, whole, rfl⟩

/-- The first `://` is found right after a text without a colon. -/
theorem splitOnceChars_append {before after : List Char} (plain : ':' ∉ before) :
    splitOnceChars "://".toList (before ++ "://".toList ++ after) = some (before, after) := by
  induction before with
  | nil =>
      have found : (':' :: '/' :: '/' :: after).dropPrefix? "://".toList = some after :=
        dropPrefix?_iff.mpr rfl
      show splitOnceChars "://".toList (':' :: '/' :: '/' :: after) = some ([], after)
      rw [splitOnceChars, found]
  | cons c rest ih =>
      rw [List.mem_cons, not_or] at plain
      have missed : (c :: (rest ++ "://".toList ++ after)).dropPrefix? "://".toList = none := by
        cases found : (c :: (rest ++ "://".toList ++ after)).dropPrefix? "://".toList with
        | none => rfl
        | some remainder =>
            have same := dropPrefix?_iff.mp found
            exact absurd (List.cons.inj same).1.symm plain.1
      rw [List.cons_append, List.cons_append, splitOnceChars, missed]
      simp only [ih plain.2, Option.map_some]

theorem splitOnceChars_eq_some {chars before after : List Char}
    (split : splitOnceChars "://".toList chars = some (before, after)) :
    chars = before ++ "://".toList ++ after := by
  induction chars generalizing before with
  | nil => cases split
  | cons c rest ih =>
      rw [splitOnceChars] at split
      cases found : (c :: rest).dropPrefix? "://".toList with
      | some remainder =>
          simp only [found] at split
          cases split
          exact dropPrefix?_iff.mp found
      | none =>
          simp only [found] at split
          obtain ⟨⟨front, back⟩, later, joined⟩ := Option.map_eq_some_iff.mp split
          cases joined
          rw [ih later]
          rfl

/-- The parts of a URL are the pieces that the check works on. -/
theorem UrlParts.split {value scheme authority tail : String}
    (parts : UrlParts value scheme authority tail) :
    ∃ remainder, splitOnceText value "://" = some (scheme, remainder) ∧
      firstPiece endsAuthority remainder = authority := by
  have pieces := takeWhile_of_stop (p := fun c => !endsAuthority c) authority.toList tail.toList
    (fun c mem => by rw [parts.authority_plain c mem]; rfl)
    (fun c first => by rw [parts.tail_start c first]; rfl)
  refine ⟨.ofList (authority.toList ++ tail.toList), ?_, ?_⟩
  · rw [splitOnceText, parts.whole, List.append_assoc _ authority.toList,
      splitOnceChars_append parts.scheme_plain]
    simp only [Option.map_some, String.ofList_toList]
  · rw [firstPiece, String.toList_ofList, pieces.1, String.ofList_toList]

theorem urlParts_of_split {value scheme remainder : String} (plain : ':' ∉ scheme.toList)
    (split : splitOnceText value "://" = some (scheme, remainder)) :
    UrlParts value scheme (firstPiece endsAuthority remainder)
      (.ofList (remainder.toList.dropWhile fun c => !endsAuthority c)) := by
  obtain ⟨⟨before, after⟩, found, joined⟩ := Option.map_eq_some_iff.mp split
  obtain ⟨rfl, rfl⟩ := Prod.mk.inj joined
  refine ⟨?_, plain, ?_, ?_⟩
  · rw [splitOnceChars_eq_some found]
    simp only [firstPiece, String.toList_ofList, List.append_assoc,
      List.takeWhile_append_dropWhile]
  · intro c mem
    rw [firstPiece, String.toList_ofList] at mem
    simpa using List.mem_takeWhile_imp mem
  · intro c first
    rw [String.toList_ofList] at first
    simpa using stop_of_dropWhile _ c first

/-- A text that spells a word has no letters but the word's, up to case. -/
theorem not_mem_of_spells {text word : String} {c : Char}
    (spells : eqIgnoreAsciiCase text word = true)
    (foreign : toAsciiLowercaseChar c ∉ (toAsciiLowercase word).toList) : c ∉ text.toList := by
  intro mem
  have same : toAsciiLowercase text = toAsciiLowercase word := by
    simpa [eqIgnoreAsciiCase] using spells
  rw [← same, toAsciiLowercase, String.toList_ofList] at foreign
  exact foreign (List.mem_map_of_mem mem)

theorem validateEndpoint_iff {name value : String} :
    validateEndpoint name value = .ok () ↔
      (∀ c ∈ value.toList, isWhitespace c = false ∧ isControl c = false) ∧
        ∃ scheme authority tail, UrlParts value scheme authority tail ∧
          '@' ∉ authority.toList ∧ endpointHost authority ≠ "" ∧
          (eqIgnoreAsciiCase scheme "https" = true ∨
            eqIgnoreAsciiCase scheme "http" = true ∧
              loopbackHost (endpointHost authority) = true) := by
  have plain_iff : (value.toList.any fun c => isWhitespace c || isControl c) = false ↔
      ∀ c ∈ value.toList, isWhitespace c = false ∧ isControl c = false := by
    simp
  have host_of_empty : endpointHost "" = "" := rfl
  constructor
  · intro accepted
    obtain ⟨plain, accepted⟩ := Except.ite_error_eq_ok_iff.mp accepted
    refine ⟨plain_iff.mp (Bool.not_eq_true _ ▸ plain), ?_⟩
    split at accepted
    · cases accepted
    rename_i scheme remainder found
    obtain ⟨authority, accepted⟩ := Except.ite_error_eq_ok_iff.mp accepted
    obtain ⟨host, accepted⟩ := Except.ite_error_eq_ok_iff.mp accepted
    simp only [Bool.or_eq_true, not_or, List.contains_iff_mem] at authority
    have host_some : endpointHost (firstPiece endsAuthority remainder) ≠ "" := by
      intro empty
      exact host (String.isEmpty_iff.mpr empty)
    split at accepted
    · rename_i secure
      have colon : ':' ∉ scheme.toList := not_mem_of_spells secure (by decide)
      exact ⟨scheme, _, _, urlParts_of_split colon found, authority.2, host_some, .inl secure⟩
    · split at accepted
      · rename_i loopback
        obtain ⟨http, loopback⟩ := Bool.and_eq_true_iff.mp loopback
        have colon : ':' ∉ scheme.toList := not_mem_of_spells http (by decide)
        exact ⟨scheme, _, _, urlParts_of_split colon found, authority.2, host_some,
          .inr ⟨http, loopback⟩⟩
      · cases accepted
  · rintro ⟨plain, scheme, authority, tail, parts, userinfo, host, admitted⟩
    obtain ⟨remainder, found, rfl⟩ := parts.split
    have authority_some : (firstPiece endsAuthority remainder).isEmpty = false := by
      rw [Bool.eq_false_iff, ne_eq, String.isEmpty_iff]
      intro empty
      rw [empty] at host
      exact host host_of_empty
    have host_some : (endpointHost (firstPiece endsAuthority remainder)).isEmpty = false := by
      rw [Bool.eq_false_iff, ne_eq, String.isEmpty_iff]
      exact host
    have no_at : (firstPiece endsAuthority remainder).toList.contains '@' = false := by
      simpa using userinfo
    unfold validateEndpoint
    simp only [plain_iff.mpr plain, found, authority_some, host_some, no_at, Bool.or_self,
      Bool.false_eq_true, if_false]
    rcases admitted with secure | ⟨http, loopback⟩
    · rw [if_pos secure]
    · rw [http, loopback]
      exact ite_self _

theorem LoopbackName.plain {name : List Char} (loopback : LoopbackName name) :
    ':' ∉ name ∧ '[' ∉ name ∧ ']' ∉ name := by
  rcases loopback with spells | rfl
  · have letters : ∀ c, toAsciiLowercaseChar c ∉ (toAsciiLowercase "localhost").toList →
        c ∉ name := by
      intro c foreign
      simpa using not_mem_of_spells spells foreign
    exact ⟨letters ':' (by decide), letters '[' (by decide), letters ']' (by decide)⟩
  · decide

/-- An authority that starts with a loopback name has no bracket in front. -/
theorem LoopbackName.append_ne {name rest inner : List Char} (loopback : LoopbackName name) :
    name ++ rest ≠ '[' :: inner := by
  intro same
  cases name with
  | nil => rcases loopback with spells | empty <;> contradiction
  | cons c others =>
      obtain ⟨rfl, -⟩ := List.cons.inj same
      exact loopback.plain.2.1 List.mem_cons_self

theorem loopbackHost_iff {host : List Char} :
    loopbackHost (.ofList host) = true ↔ LoopbackName host ∨ host = "::1".toList := by
  have spelled : ∀ text : String, (String.ofList host == text) = true ↔ host = text.toList := by
    intro text
    rw [beq_iff_eq]
    constructor
    · rintro rfl
      rw [String.toList_ofList]
    · rintro rfl
      exact String.ofList_toList
  rw [loopbackHost, Bool.or_eq_true, Bool.or_eq_true, spelled, spelled, LoopbackName]

theorem endpointHost_bracketed {inner : List Char} :
    endpointHost (.ofList ('[' :: inner)) = .ofList (inner.takeWhile fun c => !(c == ']')) := by
  have stripped : stripPrefix (.ofList ('[' :: inner)) "[" = some (.ofList inner) := by
    rw [stripPrefix_eq_some]
    simp
  rw [endpointHost, stripped]
  simp only [firstPiece, String.toList_ofList]

theorem endpointHost_unbracketed {authority : List Char} (open_ : authority.head? ≠ some '[') :
    endpointHost (.ofList authority) = .ofList (authority.takeWhile fun c => !(c == ':')) := by
  have stripped : stripPrefix (.ofList authority) "[" = none := by
    cases found : stripPrefix (.ofList authority) "[" with
    | none => rfl
    | some rest =>
        have whole := stripPrefix_eq_some.mp found
        rw [String.toList_ofList] at whole
        rw [whole] at open_
        exact absurd rfl open_
  rw [endpointHost, stripped]
  simp only [firstPiece, String.toList_ofList]

/-- Where the check sees a loopback host there is one, or an authority it mistakes for one. -/
theorem loopback_or_loose {authority : List Char}
    (found : loopbackHost (endpointHost (.ofList authority)) = true) :
    LoopbackAuthority authority ∨ LooseAuthority authority := by
  by_cases bracket : authority.head? = some '['
  · obtain ⟨inner, rfl⟩ := List.head?_eq_some_iff.mp bracket
    have stop := stop_of_dropWhile (p := fun c => !(c == ']')) inner
    have whole := List.takeWhile_append_dropWhile (p := fun c => !(c == ']')) (l := inner)
    rw [endpointHost_bracketed, loopbackHost_iff] at found
    generalize inner.takeWhile (fun c => !(c == ']')) = host at whole found
    generalize inner.dropWhile (fun c => !(c == ']')) = rest at whole stop
    subst whole
    have closed : rest = [] ∨ rest.head? = some ']' := by
      cases rest with
      | nil => exact .inl rfl
      | cons c rest => exact .inr (by simpa using stop c rfl)
    rcases found with name | rfl
    · exact .inr (.bracketedName name closed)
    · rcases closed with rfl | closed
      · exact .inr .unclosed
      · obtain ⟨rest, rfl⟩ := List.head?_eq_some_iff.mp closed
        by_cases port : PortSuffix rest
        · exact .inl ⟨"[::1]".toList, rest, rfl, .inr rfl, port⟩
        · exact .inr (.afterBracket port)
  · have stop := stop_of_dropWhile (p := fun c => !(c == ':')) authority
    have whole := List.takeWhile_append_dropWhile (p := fun c => !(c == ':')) (l := authority)
    have kept : ∀ c ∈ authority.takeWhile (fun c => !(c == ':')), (!(c == ':')) = true :=
      fun c mem => List.mem_takeWhile_imp (p := fun c => !(c == ':')) mem
    rw [endpointHost_unbracketed bracket, loopbackHost_iff] at found
    generalize authority.takeWhile (fun c => !(c == ':')) = host at whole found kept
    generalize authority.dropWhile (fun c => !(c == ':')) = rest at whole stop
    subst whole
    rcases found with name | rfl
    · cases rest with
      | nil => exact .inl ⟨host, [], rfl, .inl name, .inl rfl⟩
      | cons c port =>
          have colon : c = ':' := by simpa using stop c rfl
          subst colon
          by_cases decimal : DecimalPort port
          · exact .inl ⟨host, ':' :: port, rfl, .inl name, .inr ⟨port, rfl, decimal⟩⟩
          · exact .inr (.notAPort name decimal)
    · exact absurd (kept ':' (by decide)) (by decide)

theorem host_of_bracketed (inner rest : List Char) (plain : ']' ∉ inner)
    (closed : rest = [] ∨ rest.head? = some ']') :
    endpointHost (.ofList ('[' :: inner ++ rest)) = .ofList inner := by
  have pieces := takeWhile_of_stop (p := fun c => !(c == ']')) inner rest
    (fun c mem => by
      have other : c ≠ ']' := fun same => plain (same ▸ mem)
      simpa using other)
    (fun c first => by
      rcases closed with rfl | closed
      · cases first
      · cases first.symm.trans closed
        rfl)
  rw [List.cons_append, endpointHost_bracketed, pieces.1]

theorem host_of_name {name : List Char} (rest : List Char) (loopback : LoopbackName name)
    (ported : rest = [] ∨ rest.head? = some ':') :
    endpointHost (.ofList (name ++ rest)) = .ofList name := by
  have open_ : (name ++ rest).head? ≠ some '[' := by
    intro bracket
    obtain ⟨inner, same⟩ := List.head?_eq_some_iff.mp bracket
    exact loopback.append_ne same
  have pieces := takeWhile_of_stop (p := fun c => !(c == ':')) name rest
    (fun c mem => by
      have other : c ≠ ':' := fun same => loopback.plain.1 (same ▸ mem)
      simpa using other)
    (fun c first => by
      rcases ported with rfl | ported
      · cases first
      · cases first.symm.trans ported
        rfl)
  rw [endpointHost_unbracketed open_, pieces.1]

theorem PortSuffix.starts {rest : List Char} (port : PortSuffix rest) :
    rest = [] ∨ rest.head? = some ':' := by
  rcases port with rfl | ⟨port, rfl, -⟩
  · exact .inl rfl
  · exact .inr rfl

theorem LoopbackAuthority.host {authority : List Char} (loopback : LoopbackAuthority authority) :
    loopbackHost (endpointHost (.ofList authority)) = true := by
  obtain ⟨host, rest, rfl, name | rfl, port⟩ := loopback
  · rw [host_of_name rest name port.starts, loopbackHost_iff]
    exact .inl name
  · have inner := host_of_bracketed "::1".toList (']' :: rest) (by decide)
      (.inr rfl)
    exact (congrArg loopbackHost inner).trans (loopbackHost_iff.mpr (.inr rfl))

theorem LooseAuthority.host {authority : List Char} (loose : LooseAuthority authority) :
    loopbackHost (endpointHost (.ofList authority)) = true := by
  cases loose with
  | bracketedName loopback closed =>
      rw [host_of_bracketed _ _ loopback.plain.2.2 closed, loopbackHost_iff]
      exact .inl loopback
  | unclosed => rfl
  | @afterBracket rest junk =>
      have inner := host_of_bracketed "::1".toList (']' :: rest) (by decide)
        (.inr rfl)
      exact (congrArg loopbackHost inner).trans (loopbackHost_iff.mpr (.inr rfl))
  | notAPort loopback junk =>
      rw [host_of_name _ loopback (.inr rfl), loopbackHost_iff]
      exact .inl loopback

theorem LoopbackAuthority.not_loose {authority : List Char}
    (loopback : LoopbackAuthority authority) : ¬ LooseAuthority authority := by
  intro loose
  obtain ⟨host, rest, whole, named, port⟩ := loopback
  cases loose with
  | @bracketedName name after inner closed =>
      rcases named with name' | rfl
      · exact name'.append_ne whole.symm
      · have first := host_of_bracketed _ _ inner.plain.2.2 closed
        have second := host_of_bracketed "::1".toList (']' :: rest) (by decide)
          (.inr rfl)
        rw [whole] at first
        have same := String.ofList_inj.mp (first.symm.trans second)
        exact inner.plain.1 (same ▸ (by decide : ':' ∈ "::1".toList))
  | unclosed =>
      rcases named with name' | rfl
      · exact name'.append_ne whole.symm
      · simp at whole
  | @afterBracket after junk =>
      rcases named with name' | rfl
      · exact name'.append_ne whole.symm
      · exact junk (List.append_cancel_left whole ▸ port)
  | @notAPort name digits name' junk =>
      rcases named with other | rfl
      · have first := host_of_name (':' :: digits) name' (.inr rfl)
        have second := host_of_name rest other port.starts
        rw [whole] at first
        have same := String.ofList_inj.mp (first.symm.trans second)
        subst same
        rcases port with rfl | ⟨digits', rfl, decimal⟩
        · simp at whole
        · exact junk ((List.cons.inj (List.append_cancel_left whole)).2 ▸ decimal)
      · exact name'.append_ne whole

theorem hasHost_iff {authority : List Char} :
    HasHost authority ↔ endpointHost (.ofList authority) ≠ "" := by
  have empty_iff : ∀ chars : List Char, String.ofList chars ≠ "" ↔ chars ≠ [] := by
    intro chars
    rw [ne_eq, ← String.ofList_nil, String.ofList_inj]
  cases authority with
  | nil => exact iff_of_false (fun host => nomatch host) (fun host => host rfl)
  | cons c rest =>
      by_cases bracket : c = '['
      · subst bracket
        rw [endpointHost_bracketed, empty_iff]
        cases rest with
        | nil =>
            exact iff_of_false (fun host => by cases host; contradiction) (fun host => host rfl)
        | cons d rest =>
            by_cases closing : d = ']'
            · subst closing
              refine iff_of_false (fun host => ?_) (fun host => host rfl)
              cases host
              · contradiction
              · contradiction
            · have first : (d :: rest).takeWhile (fun c => !(c == ']')) ≠ [] := by simp [closing]
              exact iff_of_true (.bracketed closing) first
      · have open_ : (c :: rest).head? ≠ some '[' := fun same => bracket (Option.some.inj same)
        rw [endpointHost_unbracketed open_, empty_iff]
        by_cases colon : c = ':'
        · subst colon
          refine iff_of_false (fun host => ?_) (fun host => host rfl)
          cases host
          contradiction
        · have first : (c :: rest).takeWhile (fun c => !(c == ':')) ≠ [] := by simp [colon]
          exact iff_of_true (.named bracket colon) first

theorem endpointHost_ne_empty {authority : String}
    (loopback : loopbackHost (endpointHost authority) = true) : endpointHost authority ≠ "" := by
  intro empty
  rw [empty] at loopback
  cases loopback

/-- Every admissible endpoint is accepted. -/
theorem AdmissibleEndpoint.accepted {value : String} (admissible : AdmissibleEndpoint value)
    (name : String) : validateEndpoint name value = .ok () := by
  obtain ⟨plain, scheme, authority, tail, parts, userinfo, admitted⟩ := admissible
  rw [validateEndpoint_iff]
  refine ⟨plain, scheme, authority, tail, parts, userinfo, ?_⟩
  rcases admitted with ⟨secure, host⟩ | ⟨http, loopback⟩
  · have named := hasHost_iff.mp host
    rw [String.ofList_toList] at named
    exact ⟨named, .inl secure⟩
  · have host := loopback.host
    rw [String.ofList_toList] at host
    exact ⟨endpointHost_ne_empty host, .inr ⟨http, host⟩⟩

theorem LooseEndpoint.accepted {value : String} (loose : LooseEndpoint value) (name : String) :
    validateEndpoint name value = .ok () := by
  obtain ⟨plain, scheme, authority, tail, parts, userinfo, http, loose⟩ := loose
  have host := loose.host
  rw [String.ofList_toList] at host
  exact validateEndpoint_iff.mpr ⟨plain, scheme, authority, tail, parts, userinfo,
    endpointHost_ne_empty host, .inr ⟨http, host⟩⟩

theorem UrlParts.unique {value scheme authority tail scheme' authority' tail' : String}
    (parts : UrlParts value scheme authority tail)
    (parts' : UrlParts value scheme' authority' tail') :
    scheme = scheme' ∧ authority = authority' := by
  obtain ⟨remainder, found, rfl⟩ := parts.split
  obtain ⟨remainder', found', rfl⟩ := parts'.split
  cases found.symm.trans found'
  exact ⟨rfl, rfl⟩

theorem AdmissibleEndpoint.not_loose {value : String} (admissible : AdmissibleEndpoint value) :
    ¬ LooseEndpoint value := by
  rintro ⟨-, scheme, authority, tail, parts, -, http, loose⟩
  obtain ⟨-, scheme', authority', tail', parts', -, admitted⟩ := admissible
  obtain ⟨rfl, rfl⟩ := parts.unique parts'
  rcases admitted with ⟨secure, -⟩ | ⟨-, loopback⟩
  · have both : toAsciiLowercase "http" = toAsciiLowercase "https" := by
      simp only [eqIgnoreAsciiCase, beq_iff_eq] at http secure
      rw [← http, secure]
    exact absurd both (by decide)
  · exact loopback.not_loose loose

theorem admissible_or_loose {name value : String}
    (accepted : validateEndpoint name value = .ok ()) :
    AdmissibleEndpoint value ∨ LooseEndpoint value := by
  obtain ⟨plain, scheme, authority, tail, parts, userinfo, host, admitted⟩ :=
    validateEndpoint_iff.mp accepted
  rcases admitted with secure | ⟨http, loopback⟩
  · rw [← @String.ofList_toList authority] at host
    exact .inl ⟨plain, scheme, authority, tail, parts, userinfo,
      .inl ⟨secure, hasHost_iff.mpr host⟩⟩
  · rw [← @String.ofList_toList authority] at loopback
    rcases loopback_or_loose loopback with exact_ | loose
    · exact .inl ⟨plain, scheme, authority, tail, parts, userinfo, .inr ⟨http, exact_⟩⟩
    · exact .inr ⟨plain, scheme, authority, tail, parts, userinfo, http, loose⟩

/--
A string is accepted exactly if it is admissible, unless it is a plain `http`
URL whose authority is a loopback name in brackets, an `::1` in brackets that
are not closed or are followed by something else than a port, or a loopback
name followed by a colon and something else than a decimal port.
-/
theorem validateEndpoint_admissible_iff (name value : String) :
    (validateEndpoint name value = .ok () ↔ AdmissibleEndpoint value) ↔ ¬ LooseEndpoint value := by
  constructor
  · intro exact_ loose
    exact (exact_.mp (loose.accepted name)).not_loose loose
  · intro tight
    refine ⟨fun accepted => ?_, fun admissible => admissible.accepted name⟩
    rcases admissible_or_loose accepted with admissible | loose
    · exact admissible
    · exact absurd loose tight

/-- A host that is not loopback is accepted over `http` behind a bracketed address. -/
theorem validateEndpoint_bracket_junk :
    validateEndpoint "token_endpoint" "http://[::1]evil.example/token" = .ok () ∧
      ¬ AdmissibleEndpoint "http://[::1]evil.example/token" := by
  have parts : UrlParts "http://[::1]evil.example/token" "http" "[::1]evil.example" "/token" :=
    ⟨rfl, by decide, by simp [endsAuthority], by simp [endsAuthority]⟩
  have junk : ¬ PortSuffix "evil.example".toList := by
    rintro (empty | ⟨port, same, -⟩)
    · cases empty
    · exact absurd (List.cons.inj same).1 (by decide)
  have loose : LooseEndpoint "http://[::1]evil.example/token" :=
    ⟨by simp [isWhitespace, isControl], "http", "[::1]evil.example", "/token", parts, by decide,
      by decide, .afterBracket junk⟩
  exact ⟨loose.accepted _, fun admissible => admissible.not_loose loose⟩

end AgqlAuth
