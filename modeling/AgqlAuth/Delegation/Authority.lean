import AgqlAuth.Scope.Subsume
import AgqlAuth.Service.Delegate

/-!
# Authority of a delegated token

The check before issuance reads every requested scope as a requirement on the
session; the issued token then carries the same text as a grant.
-/

namespace AgqlAuth

/-- Every requirement the delegated scopes satisfy, the session's own scopes satisfy. -/
def NeverWidens (matcher : ScopeMatch) (own delegated : List String) : Prop :=
  ∀ required, matcher.hasScope delegated required = true → matcher.hasScope own required = true

namespace HierarchicalScopeMatch

variable {matcher : HierarchicalScopeMatch}

/-- Some scope of the session satisfies `delegated` and covers what it grants. -/
def Held (matcher : HierarchicalScopeMatch) (present : matcher.options.wildcard ≠ "")
    (own : List String) (delegated : String) : Prop :=
  ∃ scope ∈ own, matcher.scopeMatch.matchesScope scope delegated = true ∧
    matcher.Covers present scope delegated

instance (present : matcher.options.wildcard ≠ "") (own : List String) (delegated : String) :
    Decidable (matcher.Held present own delegated) :=
  inferInstanceAs (Decidable (∃ scope ∈ own, _))

theorem neverWidens_of_held {present : matcher.options.wildcard ≠ ""}
    {own delegated : List String} (held : ∀ scope ∈ delegated, matcher.Held present own scope) :
    NeverWidens matcher.scopeMatch own delegated := by
  intro required satisfied
  obtain ⟨scope, mem, reaches⟩ := hasScope_iff.mp satisfied
  obtain ⟨granted, granted_mem, accepted, covers⟩ := held scope mem
  exact hasScope_iff.mpr ⟨granted, granted_mem, matchesScope_trans accepted covers reaches⟩

theorem held_of_neverWidens (present : matcher.options.wildcard ≠ "")
    {own delegated : List String} (plain : matcher.PlainTexts own)
    (accepted : ∀ scope ∈ delegated, matcher.scopeMatch.hasScope own scope = true)
    (contained : NeverWidens matcher.scopeMatch own delegated) :
    ∀ scope ∈ delegated, matcher.Held present own scope := by
  intro scope mem
  refine exists_covers present plain (accepted scope mem) ?_
  intro required reaches
  exact contained required (hasScope_iff.mpr ⟨scope, mem, reaches⟩)

/-- Representable scopes leave characters unused: they are ASCII. -/
theorem plainTexts_of_representable {own : List String}
    (representable : ∀ text ∈ matcher.texts own, validScopeToken text = true)
    (clean : matcher.options.wildcardMatchesMultiSegment = true ∨
      matcher.options.separator ∉ matcher.options.wildcard.toList) :
    matcher.PlainTexts own := by
  have ascii : ∀ c, validScopeChar c = false → ∀ text ∈ matcher.texts own, c ∉ text.toList := by
    intro c invalid text mem inside
    have token := representable text mem
    simp only [validScopeToken, Bool.and_eq_true, List.all_eq_true] at token
    cases invalid.symm.trans (token.2 c inside)
  refine ⟨?_, ?_, clean⟩
  · rintro text mem rfl
    cases representable "" mem
  · by_cases taken : matcher.options.separator = 'é'
    · exact ⟨'è', by rw [taken]; decide, ascii 'è' (by decide)⟩
    · exact ⟨'é', Ne.symm taken, ascii 'é' (by decide)⟩

end HierarchicalScopeMatch

/--
A delegation that the check accepts never widens authority if the session holds
every delegated scope: some scope of the session satisfies it and covers what it
grants.  Where the texts can be told apart, this is also necessary.
-/
theorem delegation_neverWidens_iff (svc : AuthService) (matcher : HierarchicalScopeMatch)
    (configured : svc.scopeMatcher = matcher.scopeMatch)
    (present : matcher.options.wildcard ≠ "") (current : AuthUser)
    (request : SessionBoundAccessTokenOnlyRequest)
    (accepted : svc.validateSessionBoundCurrentAuthority current request = .ok ()) :
    ((∀ scope ∈ request.scopes, matcher.Held present current.scopes scope) →
      NeverWidens svc.scopeMatcher current.scopes request.scopes) ∧
    (matcher.PlainTexts current.scopes →
      (NeverWidens svc.scopeMatcher current.scopes request.scopes ↔
        ∀ scope ∈ request.scopes, matcher.Held present current.scopes scope)) := by
  have satisfied := (withinCurrentAuthority_of_validate accepted).scopes
  rw [configured] at satisfied ⊢
  have enough : (∀ scope ∈ request.scopes, matcher.Held present current.scopes scope) →
      NeverWidens matcher.scopeMatch current.scopes request.scopes :=
    HierarchicalScopeMatch.neverWidens_of_held
  refine ⟨enough, fun plain => ⟨?_, enough⟩⟩
  exact HierarchicalScopeMatch.held_of_neverWidens present plain satisfied

/-- A service with the default hierarchical matcher. -/
def delegatingService : AuthService :=
  (AuthService.bare .default).withScopeMatcher HierarchicalScopeMatch.withDefaults.scopeMatch

def sessionWithScopes (scopes : List String) : AuthUser where
  userId := "ada"
  sessionId := ⟨0⟩
  roles := []
  scopes
  session := .forAuthMethod .password
  tokenClaims := {}

def requestForScopes (scopes : List String) : SessionBoundAccessTokenOnlyRequest where
  reference := (AuthPrincipal.user (sessionWithScopes scopes)).reference
  roles := []
  scopes
  binding := {
    actor := { sub := "tool" }
    resourceType := "graphql_operation"
    resourceId := "orders"
    correlationId := "1"
    operation := ⟨"Orders", "sha256"⟩ }

/-- A session for all orders delegates reading them, and nothing else. -/
theorem orders_neverWidens :
    delegatingService.validateSessionBoundCurrentAuthority (sessionWithScopes ["orders.*"])
        (requestForScopes ["orders.*.read"]) = .ok () ∧
      NeverWidens delegatingService.scopeMatcher ["orders.*"] ["orders.*.read"] ∧
      HierarchicalScopeMatch.withDefaults.PlainTexts ["orders.*"] := by
  have plain : HierarchicalScopeMatch.withDefaults.PlainTexts ["orders.*"] :=
    HierarchicalScopeMatch.plainTexts_of_representable (by decide) (.inl rfl)
  have exact_condition := (delegation_neverWidens_iff delegatingService .withDefaults rfl
    (by decide) (sessionWithScopes ["orders.*"]) (requestForScopes ["orders.*.read"])
    (by decide)).2 plain
  exact ⟨by decide, exact_condition.mpr (by decide), plain⟩

/--
The text `orders.*.` is a raw prefix of the requested scope, so the check
accepts it; what the requested scope grants does not start with that text.
-/
theorem orders_widened :
    delegatingService.validateSessionBoundCurrentAuthority (sessionWithScopes ["orders.*.*"])
        (requestForScopes ["orders.*.read"]) = .ok () ∧
      ¬ NeverWidens delegatingService.scopeMatcher ["orders.*.*"] ["orders.*.read"] := by
  refine ⟨by decide, fun contained => ?_⟩
  have widened := contained "orders.eu.read" (by decide)
  revert widened
  decide

end AgqlAuth
