import AgqlAuth.Base.Text

/-!
# Scope matchers

A granted scope is read as a pattern and a required scope as a text.
-/

namespace AgqlAuth

/-- The `ScopeMatch` trait: `matches`, and `has_scope` with its default. -/
structure ScopeMatch where
  matchesScope : String → String → Bool
  hasScope : List String → String → Bool := fun granted required =>
    granted.any (matchesScope · required)

def exactScopeMatch : ScopeMatch where
  matchesScope granted required := granted == required

structure HierarchicalScopeOptions where
  separator : Char := '.'
  wildcard : String := "*"
  wildcardMatchesMultiSegment : Bool := true
  allowUniversalWildcard : Bool := false
  superScopes : List String := []
  allowSuperScopesForExactOnly : Bool := false
  exactOnlyScopes : List String := []
  exactOnlyScopePatterns : List String := []

inductive HierarchicalScopeValidationError where
  | bareWildcardExactOnlyPattern (pattern : String)
  deriving DecidableEq

inductive HierarchicalScopeValidationWarning where
  | wildcardExactOnlyPattern (pattern : String)
  deriving DecidableEq

namespace HierarchicalScopeOptions

/-- The loop of `validate` over the exact-only patterns. -/
def validateFrom (self : HierarchicalScopeOptions)
    (warnings : List HierarchicalScopeValidationWarning) :
    List String → Except HierarchicalScopeValidationError (List HierarchicalScopeValidationWarning)
  | [] => .ok warnings
  | pattern :: rest =>
      if !self.wildcard.isEmpty && pattern == self.wildcard then
        .error (.bareWildcardExactOnlyPattern pattern)
      else if !self.wildcard.isEmpty && containsText pattern self.wildcard then
        self.validateFrom (warnings ++ [.wildcardExactOnlyPattern pattern]) rest
      else self.validateFrom warnings rest

def validate (self : HierarchicalScopeOptions) :
    Except HierarchicalScopeValidationError (List HierarchicalScopeValidationWarning) :=
  self.validateFrom [] self.exactOnlyScopePatterns

end HierarchicalScopeOptions

/-- A matcher whose options were validated. -/
structure HierarchicalScopeMatch where
  options : HierarchicalScopeOptions
  validationWarnings : List HierarchicalScopeValidationWarning
  validated : options.validate = .ok validationWarnings

namespace HierarchicalScopeMatch

def new (options : HierarchicalScopeOptions) :
    Except HierarchicalScopeValidationError HierarchicalScopeMatch :=
  match validated : options.validate with
  | .error e => .error e
  | .ok validationWarnings => .ok { options, validationWarnings, validated }

def withDefaults : HierarchicalScopeMatch := ⟨{}, [], rfl⟩

def isConfiguredSuperScope (self : HierarchicalScopeMatch) (granted : String) : Bool :=
  self.options.superScopes.any (· == granted)

/-- Interior wildcards are whole segments, and the segment counts must agree. -/
def matchesHierarchy (self : HierarchicalScopeMatch) (granted required : String) : Bool :=
  if granted = required then true
  else if granted.isEmpty || required.isEmpty || self.options.wildcard.isEmpty then false
  else if granted = self.options.wildcard then self.options.allowUniversalWildcard
  else
    match stripSuffix granted self.options.wildcard with
    | some stem =>
        if stem.isEmpty then self.options.allowUniversalWildcard
        else if self.options.wildcardMatchesMultiSegment then startsWith required stem
        else
          match stripPrefix required stem with
          | none => false
          | some rest => !rest.isEmpty && !rest.toList.contains self.options.separator
    | none =>
        let grantedSegments := splitAtChar granted self.options.separator
        let requiredSegments := splitAtChar required self.options.separator
        grantedSegments.length == requiredSegments.length &&
          (grantedSegments.zip requiredSegments).all fun (grantedSegment, requiredSegment) =>
            grantedSegment == self.options.wildcard || grantedSegment == requiredSegment

def isExactOnlyRequirement (self : HierarchicalScopeMatch) (required : String) : Bool :=
  self.options.exactOnlyScopes.any (· == required) ||
    self.options.exactOnlyScopePatterns.any (self.matchesHierarchy · required)

def matchesWithExactOnly (self : HierarchicalScopeMatch) (granted required : String)
    (exactOnly : Bool) : Bool :=
  if granted = required then true
  else if exactOnly then
    self.options.allowSuperScopesForExactOnly && self.isConfiguredSuperScope granted
  else if self.isConfiguredSuperScope granted then true
  else self.matchesHierarchy granted required

def scopeMatch (self : HierarchicalScopeMatch) : ScopeMatch where
  matchesScope granted required :=
    self.matchesWithExactOnly granted required (self.isExactOnlyRequirement required)
  hasScope granted required :=
    granted.any (self.matchesWithExactOnly · required (self.isExactOnlyRequirement required))

end HierarchicalScopeMatch

end AgqlAuth
