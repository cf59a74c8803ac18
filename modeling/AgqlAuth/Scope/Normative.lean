import AgqlAuth.Scope.Subsume

/-!
# The normative scope algorithm

The algorithm of the scope-matching document, in its order: exact-only
requirements, super-scopes, and then the granted scope read as a pattern.
-/

namespace AgqlAuth

open Pattern

namespace HierarchicalScopeOptions

/--
Steps 3 to 7, which also select the exact-only requirements.  A trailing wildcard
that does not reach over separators consumes exactly one segment.
-/
def wildcardRules (self : HierarchicalScopeOptions) (granted required : String) : Bool :=
  if granted = required then true
  else if granted = self.wildcard then self.allowUniversalWildcard
  else
    match stripSuffix granted self.wildcard with
    | some stem =>
        if self.wildcardMatchesMultiSegment then startsWith required stem
        else
          (stripPrefix required stem).any fun rest =>
            rest ≠ "" ∧ splitAtChar rest self.separator = [rest]
    | none =>
        List.Forall₂ (fun grantedSegment requiredSegment =>
            grantedSegment = requiredSegment ∨ grantedSegment = self.wildcard)
          (splitAtChar granted self.separator) (splitAtChar required self.separator)

/-- A requirement that is listed, or selected by a pattern. -/
def ExactOnly (self : HierarchicalScopeOptions) (required : String) : Prop :=
  required ∈ self.exactOnlyScopes ∨
    ∃ pattern ∈ self.exactOnlyScopePatterns, self.wildcardRules pattern required = true

instance (self : HierarchicalScopeOptions) (required : String) :
    Decidable (self.ExactOnly required) :=
  inferInstanceAs (Decidable (_ ∨ _))

def normativeMatches (self : HierarchicalScopeOptions) (granted required : String) : Bool :=
  if self.ExactOnly required then
    granted = required ∨ self.allowSuperScopesForExactOnly = true ∧ granted ∈ self.superScopes
  else if granted ∈ self.superScopes then true
  else self.wildcardRules granted required

/-- The options under which the bare wildcard leaves the empty scope alone. -/
def universalUnlessEmpty (self : HierarchicalScopeOptions) (required : String) :
    HierarchicalScopeOptions :=
  { self with allowUniversalWildcard := self.allowUniversalWildcard && required != "" }

variable {self : HierarchicalScopeOptions} {granted required : String}

theorem segmentsRule_iff {wildcard : String} {separator : Char} :
    List.Forall₂ (fun grantedSegment requiredSegment =>
        grantedSegment = requiredSegment ∨ grantedSegment = wildcard)
      (splitAtChar granted separator) (splitAtChar required separator) ↔
      SegmentsFit wildcard.toList (granted.toList.splitOn separator)
        (required.toList.splitOn separator) := by
  simp only [splitAtChar, List.forall₂_map_left_iff, List.forall₂_map_right_iff,
    ← String.toList_inj, String.toList_ofList]
  constructor <;> exact List.Forall₂.imp fun _ _ fits => fits.symm

theorem splitAtChar_eq_singleton {separator : Char} {text : String} :
    splitAtChar text separator = [text] ↔ separator ∉ text.toList := by
  constructor
  · intro whole inside
    have counted : (splitAtChar text separator).length = text.toList.count separator + 1 := by
      rw [splitAtChar, List.length_map, length_splitOn]
    rw [whole, List.length_singleton] at counted
    exact Nat.ne_of_gt (List.count_pos_iff.mpr inside) (Nat.succ.inj counted).symm
  · intro clean
    rw [splitAtChar, List.splitOn_eq_singleton clean, List.map_singleton, String.ofList_toList]

/-- Steps 5 and 6. -/
theorem trailingRule_iff (present : self.wildcard ≠ "") {stem : String} :
    (if self.wildcardMatchesMultiSegment then startsWith required stem
      else (stripPrefix required stem).any fun rest =>
        rest ≠ "" ∧ splitAtChar rest self.separator = [rest]) = true ↔
      ∃ rest, required.toList = stem.toList ++ rest ∧ (self.rules present).TailFits rest := by
  split
  case isTrue multi =>
    rw [startsWith_iff]
    constructor
    · rintro ⟨rest, whole⟩
      exact ⟨rest, whole.symm, .inl multi⟩
    · rintro ⟨rest, whole, -⟩
      exact ⟨rest, whole.symm⟩
  case isFalse single =>
    have fits (rest : List Char) : (self.rules present).TailFits rest ↔
        rest ≠ [] ∧ self.separator ∉ rest := or_iff_right single
    simp only [Option.any_eq_true, stripPrefix_eq_some, decide_eq_true_eq,
      splitAtChar_eq_singleton, fits]
    constructor
    · rintro ⟨rest, whole, nonempty, clean⟩
      exact ⟨rest.toList, whole, by simpa using nonempty, clean⟩
    · rintro ⟨rest, whole, nonempty, clean⟩
      refine ⟨.ofList rest, ?_, ?_, ?_⟩
      · rw [String.toList_ofList, whole]
      · simpa using nonempty
      · rwa [String.toList_ofList]

/-- The rules are acceptance, unless the bare wildcard meets the empty requirement. -/
theorem wildcardRules_iff (present : self.wildcard ≠ "")
    (guarded : granted = self.wildcard → self.allowUniversalWildcard = true → required ≠ "") :
    self.wildcardRules granted required = true ↔
      (self.rules present).Accepts granted.toList required.toList := by
  unfold wildcardRules
  split
  case isTrue same => simpa [same] using Rules.Accepts.same _
  case isFalse other =>
    have other : granted.toList ≠ required.toList := fun same => other (String.toList_inj.mp same)
    split
    case isTrue whole =>
      have accepts : (self.rules present).Accepts self.wildcard.toList required.toList ↔
          self.wildcard.toList = required.toList ∨
            self.allowUniversalWildcard = true ∧ required.toList ≠ [] :=
        Rules.accepts_whole
      rw [whole] at other ⊢
      rw [accepts, or_iff_right other, iff_self_and]
      intro universal
      simpa using guarded whole universal
    case isFalse part =>
      cases split : stripSuffix granted self.wildcard with
      | some stem =>
          rw [stripSuffix_eq_some] at split
          have stem_ne : stem.toList ≠ [] := by
            intro empty
            rw [empty] at split
            exact part (String.toList_inj.mp split)
          have accepts : (self.rules present).Accepts (stem.toList ++ self.wildcard.toList)
              required.toList ↔ _ := Rules.accepts_trailing stem_ne
          rw [split] at other ⊢
          exact (trailingRule_iff present).trans (accepts.trans (or_iff_right other)).symm
      | none =>
          have inner : ¬ (self.rules present).wildcard <:+ granted.toList := by
            rintro ⟨stem, whole⟩
            have found : stripSuffix granted self.wildcard = some (.ofList stem) := by
              rw [stripSuffix_eq_some, String.toList_ofList]
              exact whole.symm
            cases split.symm.trans found
          rw [decide_eq_true_eq]
          exact segmentsRule_iff.trans (Rules.accepts_segments inner).symm

theorem validateFrom_bare {warnings warnings' : List HierarchicalScopeValidationWarning}
    {patterns : List String} (present : self.wildcard ≠ "")
    (valid : self.validateFrom warnings patterns = .ok warnings') : self.wildcard ∉ patterns := by
  induction patterns generalizing warnings with
  | nil => exact List.not_mem_nil
  | cons pattern rest ih =>
      unfold validateFrom at valid
      split at valid
      · cases valid
      · rename_i kept
        have other : pattern ≠ self.wildcard := by simpa [present] using kept
        have tail : self.wildcard ∉ rest := by
          split at valid <;> exact ih valid
        rw [List.mem_cons, not_or]
        exact ⟨other.symm, tail⟩

/-- No validated exact-only pattern is the bare wildcard. -/
theorem pattern_ne_wildcard {warnings : List HierarchicalScopeValidationWarning}
    (present : self.wildcard ≠ "") (valid : self.validate = .ok warnings) {pattern : String}
    (mem : pattern ∈ self.exactOnlyScopePatterns) : pattern ≠ self.wildcard :=
  fun same => validateFrom_bare present valid (same ▸ mem)

/-- Acceptance never gives the empty text to the bare wildcard. -/
theorem accepts_universalUnlessEmpty (present : self.wildcard ≠ "") :
    ((self.universalUnlessEmpty required).rules present).Accepts granted.toList required.toList ↔
      (self.rules present).Accepts granted.toList required.toList := by
  constructor
  · refine Rules.Accepts.mono rfl rfl rfl fun universal _ => ?_
    exact (Bool.and_eq_true_iff.mp universal).1
  · refine Rules.Accepts.mono rfl rfl rfl fun universal nonempty => ?_
    exact Bool.and_eq_true_iff.mpr ⟨universal, by simpa using nonempty⟩

end HierarchicalScopeOptions

namespace HierarchicalScopeMatch

open HierarchicalScopeOptions

variable {self : HierarchicalScopeMatch} {granted required : String}

theorem wildcardRules_eq (present : self.options.wildcard ≠ "")
    (guarded : granted = self.options.wildcard → self.options.allowUniversalWildcard = true →
      required ≠ "") :
    self.options.wildcardRules granted required = self.matchesHierarchy granted required :=
  Bool.eq_iff_iff.mpr ((wildcardRules_iff present guarded).trans (matchesHierarchy_iff present).symm)

theorem wildcardRules_universalUnlessEmpty (present : self.options.wildcard ≠ "") :
    (self.options.universalUnlessEmpty required).wildcardRules granted required =
      self.matchesHierarchy granted required := by
  have guarded : (self.options.universalUnlessEmpty required).allowUniversalWildcard = true →
      required ≠ "" := by
    intro universal
    simpa using (Bool.and_eq_true_iff.mp universal).2
  have rules := @wildcardRules_iff (self.options.universalUnlessEmpty required) granted required
    present fun _ => guarded
  rw [Bool.eq_iff_iff, matchesHierarchy_iff present, ← accepts_universalUnlessEmpty present, rules]

theorem exactOnly_iff (present : self.options.wildcard ≠ "") :
    self.options.ExactOnly required ↔ self.isExactOnlyRequirement required = true := by
  have selected (pattern : String) (mem : pattern ∈ self.options.exactOnlyScopePatterns) :
      self.options.wildcardRules pattern required = self.matchesHierarchy pattern required :=
    wildcardRules_eq present fun bare => absurd bare (pattern_ne_wildcard present self.validated mem)
  simp only [ExactOnly, isExactOnlyRequirement, Bool.or_eq_true, List.any_eq_true, beq_iff_eq]
  refine or_congr ?_ (exists_congr fun pattern => and_congr_right fun mem => ?_)
  · simp
  · rw [selected pattern mem]

theorem exactOnly_universalUnlessEmpty (present : self.options.wildcard ≠ "") :
    (self.options.universalUnlessEmpty required).ExactOnly required ↔
      self.isExactOnlyRequirement required = true := by
  have selected (pattern : String) : (self.options.universalUnlessEmpty required).wildcardRules
      pattern required = self.matchesHierarchy pattern required :=
    wildcardRules_universalUnlessEmpty present
  simp only [ExactOnly, isExactOnlyRequirement, Bool.or_eq_true, List.any_eq_true, beq_iff_eq,
    selected]
  exact or_congr (by simp [universalUnlessEmpty]) Iff.rfl

theorem hasScope_exactOnly {scopes : List String}
    (exactOnly : self.isExactOnlyRequirement required = true) :
    self.scopeMatch.hasScope scopes required = true ↔
      required ∈ scopes ∨ self.options.allowSuperScopesForExactOnly = true ∧
        ∃ super ∈ self.options.superScopes, super ∈ scopes := by
  simp only [hasScope_iff, matchesScope_exactOnly exactOnly, isConfiguredSuperScope,
    List.any_eq_true, beq_iff_eq, exists_eq_right]
  constructor
  · rintro ⟨scope, mem, rfl | ⟨allowed, super⟩⟩
    · exact .inl mem
    · exact .inr ⟨allowed, scope, super, mem⟩
  · rintro (mem | ⟨allowed, super, configured, mem⟩)
    · exact ⟨required, mem, .inl rfl⟩
    · exact ⟨super, mem, .inr ⟨allowed, configured⟩⟩

theorem matchesScope_normative (present : self.options.wildcard ≠ "") :
    self.scopeMatch.matchesScope granted required =
      (self.options.universalUnlessEmpty required).normativeMatches granted required := by
  have super : self.isConfiguredSuperScope granted = true ↔ granted ∈ self.options.superScopes := by
    simp [isConfiguredSuperScope]
  unfold normativeMatches
  rw [Bool.eq_iff_iff]
  split
  case isTrue exactOnly =>
    rw [exactOnly_universalUnlessEmpty present] at exactOnly
    rw [matchesScope_exactOnly exactOnly, super, decide_eq_true_eq]
    rfl
  case isFalse ordinary =>
    rw [exactOnly_universalUnlessEmpty present, Bool.not_eq_true] at ordinary
    rw [matchesScope_ordinary ordinary, super]
    split
    case isTrue configured => exact iff_of_true (.inr (.inl configured)) rfl
    case isFalse configured =>
      have reflexive (same : granted = required) : self.matchesHierarchy granted required = true :=
        if_pos same
      rw [wildcardRules_universalUnlessEmpty present]
      constructor
      · rintro (same | listed | accepted)
        · exact reflexive same
        · exact absurd listed configured
        · exact accepted
      · exact fun accepted => .inr (.inr accepted)

/--
The matcher computes the normative algorithm, except that the bare wildcard
never grants the empty scope.
-/
theorem matches_normative_algorithm (present : self.options.wildcard ≠ "") :
    (∀ granted required, self.scopeMatch.matchesScope granted required =
      (self.options.universalUnlessEmpty required).normativeMatches granted required) ∧
    (∀ scopes required, self.scopeMatch.hasScope scopes required =
      scopes.any (self.scopeMatch.matchesScope · required)) ∧
    ∀ scopes required, self.options.ExactOnly required →
      (self.scopeMatch.hasScope scopes required = true ↔
        required ∈ scopes ∨ self.options.allowSuperScopesForExactOnly = true ∧
          ∃ super ∈ self.options.superScopes, super ∈ scopes) := by
  refine ⟨fun _ _ => matchesScope_normative present, fun _ _ => rfl, ?_⟩
  intro scopes required exactOnly
  exact hasScope_exactOnly ((exactOnly_iff present).mp exactOnly)

def releaseMatcher : HierarchicalScopeMatch where
  options :=
    { wildcard := "any", allowUniversalWildcard := true, superScopes := ["root.admin"],
      allowSuperScopesForExactOnly := true, exactOnlyScopePatterns := ["payments.any.release"] }
  validationWarnings := [.wildcardExactOnlyPattern "payments.any.release"]
  validated := rfl

theorem releaseMatcher_normative :
    releaseMatcher.scopeMatch.matchesScope "orders.many" "orders.m" =
      (releaseMatcher.options.universalUnlessEmpty "orders.m").normativeMatches
        "orders.many" "orders.m" ∧
    (releaseMatcher.scopeMatch.hasScope ["any"] "payments.card.release" = true ↔
      "payments.card.release" ∈ ["any"] ∨
        releaseMatcher.options.allowSuperScopesForExactOnly = true ∧
          ∃ super ∈ releaseMatcher.options.superScopes, super ∈ ["any"]) := by
  have normative := @matches_normative_algorithm releaseMatcher (by decide)
  exact ⟨normative.1 _ _, normative.2.2 _ _ (by decide +kernel)⟩

/-- The document lets a universal wildcard grant the empty scope. -/
theorem bareWildcard_not_normative :
    releaseMatcher.options.validate = .ok releaseMatcher.validationWarnings ∧
      releaseMatcher.options.wildcard ≠ "" ∧
      releaseMatcher.scopeMatch.matchesScope "any" "" = false ∧
      releaseMatcher.options.normativeMatches "any" "" = true := by
  decide +kernel

end HierarchicalScopeMatch

end AgqlAuth
