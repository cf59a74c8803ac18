import AgqlAuth.Pattern.Wildcard
import AgqlAuth.Scope.Match

/-!
# When one scope subsumes another

Hierarchical matching is acceptance of wildcard texts, so what a scope grants
can be compared with what another scope grants.
-/

namespace AgqlAuth

open Pattern

/-- How the options read a granted scope. -/
def HierarchicalScopeOptions.rules (self : HierarchicalScopeOptions)
    (present : self.wildcard ≠ "") : Rules Char where
  separator := self.separator
  wildcard := self.wildcard.toList
  multiSegment := self.wildcardMatchesMultiSegment
  universal := self.allowUniversalWildcard
  wildcard_ne := by simpa using present

namespace HierarchicalScopeMatch

variable {self : HierarchicalScopeMatch} {granted required : String}

theorem segments_iff {wildcard : String} {separator : Char} :
    ((splitAtChar granted separator).length == (splitAtChar required separator).length &&
        ((splitAtChar granted separator).zip (splitAtChar required separator)).all
          fun (grantedSegment, requiredSegment) =>
            grantedSegment == wildcard || grantedSegment == requiredSegment) = true ↔
      SegmentsFit wildcard.toList (granted.toList.splitOn separator)
        (required.toList.splitOn separator) := by
  have texts : SegmentsFit wildcard.toList (granted.toList.splitOn separator)
        (required.toList.splitOn separator) ↔
      List.Forall₂ (fun a b : String => a = wildcard ∨ a = b) (splitAtChar granted separator)
        (splitAtChar required separator) := by
    simp only [splitAtChar, List.forall₂_map_left_iff, List.forall₂_map_right_iff,
      ← String.toList_inj, String.toList_ofList]
    rfl
  rw [texts, List.forall₂_iff_zip, Bool.and_eq_true, beq_iff_eq, List.all_eq_true]
  simp

theorem trailing_iff (present : self.options.wildcard ≠ "") {stem : String} (nonempty : stem ≠ "")
    (split : granted.toList = stem.toList ++ self.options.wildcard.toList)
    (other : granted.toList ≠ required.toList) :
    (if self.options.wildcardMatchesMultiSegment then startsWith required stem
      else
        match stripPrefix required stem with
        | none => false
        | some rest => !rest.isEmpty && !rest.toList.contains self.options.separator) = true ↔
      (self.options.rules present).Accepts granted.toList required.toList := by
  have stem_ne : stem.toList ≠ [] := by simpa using nonempty
  have accepts : (self.options.rules present).Accepts granted.toList required.toList ↔
      ∃ rest, required.toList = stem.toList ++ rest ∧ (self.options.rules present).TailFits rest := by
    rw [split] at other ⊢
    exact (Rules.accepts_trailing stem_ne).trans (or_iff_right other)
  rw [accepts]
  split
  case isTrue multi =>
    rw [startsWith_iff]
    constructor
    · rintro ⟨rest, whole⟩
      exact ⟨rest, whole.symm, .inl multi⟩
    · rintro ⟨rest, whole, -⟩
      exact ⟨rest, whole.symm⟩
  case isFalse single =>
    have fits (rest : List Char) : (self.options.rules present).TailFits rest ↔
        rest ≠ [] ∧ self.options.separator ∉ rest := or_iff_right single
    cases found : stripPrefix required stem with
    | none =>
        simp only [Bool.false_eq_true, false_iff]
        rintro ⟨rest, whole, -⟩
        have some_rest : stripPrefix required stem = some (.ofList rest) := by
          rw [stripPrefix_eq_some, String.toList_ofList]
          exact whole
        cases found.symm.trans some_rest
    | some rest =>
        rw [stripPrefix_eq_some] at found
        have unique : (∃ more, required.toList = stem.toList ++ more ∧
            (self.options.rules present).TailFits more) ↔
            (self.options.rules present).TailFits rest.toList := by
          constructor
          · rintro ⟨more, whole, fits⟩
            rwa [List.append_cancel_left (found.symm.trans whole)]
          · exact fun fits => ⟨rest.toList, found, fits⟩
        rw [unique, fits]
        simp

/-- `matches_hierarchy` is acceptance of the granted text. -/
theorem matchesHierarchy_iff (present : self.options.wildcard ≠ "") :
    self.matchesHierarchy granted required = true ↔
      (self.options.rules present).Accepts granted.toList required.toList := by
  unfold matchesHierarchy
  split
  case isTrue same => simpa [same] using Rules.Accepts.same _
  case isFalse other =>
    have other : granted.toList ≠ required.toList := fun same => other (String.toList_inj.mp same)
    split
    case isTrue empty =>
      have rejected : ¬ (self.options.rules present).Accepts granted.toList required.toList := by
        intro accepts
        by_cases nil : granted.toList = []
        · rw [nil, Rules.accepts_nil] at accepts
          exact other (nil.trans accepts.symm)
        · have nonempty := accepts.ne_nil nil
          simp_all
      simpa using rejected
    case isFalse nonempty =>
      have required_ne : required.toList ≠ [] := by simp_all
      split
      case isTrue whole =>
        rw [whole] at other ⊢
        have accepts : (self.options.rules present).Accepts self.options.wildcard.toList
            required.toList ↔ self.options.wildcard.toList = required.toList ∨
              self.options.allowUniversalWildcard = true ∧ required.toList ≠ [] :=
          Rules.accepts_whole
        rw [accepts, or_iff_right other, and_iff_left required_ne]
      case isFalse part =>
        cases split : stripSuffix granted self.options.wildcard with
        | some stem =>
            rw [stripSuffix_eq_some] at split
            have stem_ne : stem ≠ "" := by
              rintro rfl
              exact part (String.toList_inj.mp split)
            have stem_nonempty : ¬ stem.isEmpty = true := by simpa using stem_ne
            dsimp only
            rw [if_neg stem_nonempty]
            exact trailing_iff present stem_ne split other
        | none =>
            have inner : ¬ (self.options.rules present).wildcard <:+ granted.toList := by
              rintro ⟨stem, whole⟩
              have found : stripSuffix granted self.options.wildcard = some (.ofList stem) := by
                rw [stripSuffix_eq_some, String.toList_ofList]
                exact whole.symm
              cases split.symm.trans found
            exact segments_iff.trans (Rules.accepts_segments inner).symm

theorem hasScope_iff {scopes : List String} :
    self.scopeMatch.hasScope scopes required = true ↔
      ∃ scope ∈ scopes, self.scopeMatch.matchesScope scope required = true :=
  List.any_eq_true

theorem matchesScope_exactOnly (exactOnly : self.isExactOnlyRequirement required = true) :
    self.scopeMatch.matchesScope granted required = true ↔
      granted = required ∨ self.options.allowSuperScopesForExactOnly = true ∧
        self.isConfiguredSuperScope granted = true := by
  simp [scopeMatch, matchesWithExactOnly, exactOnly]

theorem matchesScope_ordinary (ordinary : self.isExactOnlyRequirement required = false) :
    self.scopeMatch.matchesScope granted required = true ↔
      granted = required ∨ self.isConfiguredSuperScope granted = true ∨
        self.matchesHierarchy granted required = true := by
  simp [scopeMatch, matchesWithExactOnly, ordinary, or_iff_not_imp_left]

/--
A granted scope that satisfies `delegated` as a requirement also covers it as a
grant: it is the same scope or a super-scope, or `delegated` is no super-scope
and a trailing wildcard of the granted scope starts before its first wildcard.
-/
def Covers (self : HierarchicalScopeMatch) (present : self.options.wildcard ≠ "")
    (granted delegated : String) : Prop :=
  granted = delegated ∨ self.isConfiguredSuperScope granted = true ∨
    self.isConfiguredSuperScope delegated = false ∧
      (self.options.rules present).Within granted.toList delegated.toList

instance (present : self.options.wildcard ≠ "") (granted delegated : String) :
    Decidable (self.Covers present granted delegated) :=
  inferInstanceAs (Decidable (_ ∨ _))

/-- A super-scope that satisfies a scope satisfies what that scope grants. -/
theorem superScope_trans {delegated : String} (super : self.isConfiguredSuperScope granted = true)
    (accepted : self.scopeMatch.matchesScope granted delegated = true)
    (satisfied : self.scopeMatch.matchesScope delegated required = true) :
    self.scopeMatch.matchesScope granted required = true := by
  cases exactOnly : self.isExactOnlyRequirement required with
  | true =>
      rw [matchesScope_exactOnly exactOnly] at satisfied
      rcases satisfied with rfl | ⟨allowed, -⟩
      · exact accepted
      · exact (matchesScope_exactOnly exactOnly).mpr (.inr ⟨allowed, super⟩)
  | false => exact (matchesScope_ordinary exactOnly).mpr (.inr (.inl super))

theorem matchesScope_trans {present : self.options.wildcard ≠ ""} {delegated : String}
    (accepted : self.scopeMatch.matchesScope granted delegated = true)
    (covers : self.Covers present granted delegated)
    (satisfied : self.scopeMatch.matchesScope delegated required = true) :
    self.scopeMatch.matchesScope granted required = true := by
  rcases covers with rfl | super | ⟨ordinary, within⟩
  · exact satisfied
  · exact superScope_trans super accepted satisfied
  cases exactOnly : self.isExactOnlyRequirement required with
  | true =>
      rw [matchesScope_exactOnly exactOnly, ordinary] at satisfied
      rcases satisfied with rfl | ⟨-, ⟨⟩⟩
      exact accepted
  | false =>
      have satisfied' := satisfied
      rw [matchesScope_ordinary exactOnly, ordinary] at satisfied
      rcases satisfied with rfl | ⟨⟨⟩⟩ | reached
      · exact accepted
      cases accepted_exactOnly : self.isExactOnlyRequirement delegated with
      | true =>
          rcases (matchesScope_exactOnly accepted_exactOnly).mp accepted with rfl | ⟨-, super⟩
          · exact satisfied'
          · exact superScope_trans super accepted satisfied'
      | false =>
          rcases (matchesScope_ordinary accepted_exactOnly).mp accepted with rfl | super | held
          · exact satisfied'
          · exact superScope_trans super accepted satisfied'
          · refine (matchesScope_ordinary exactOnly).mpr (.inr (.inr ?_))
            rw [matchesHierarchy_iff present] at held reached ⊢
            exact held.trans (.inr within) reached

/-- The texts compared with a required scope. -/
def texts (self : HierarchicalScopeMatch) (scopes : List String) : List String :=
  scopes ++ (self.options.exactOnlyScopes ++ self.options.exactOnlyScopePatterns)

/--
Texts that can be told apart: none is empty, there is a character none of them
uses, and a wildcard confined to one segment has no separator in it.
-/
structure PlainTexts (matcher : HierarchicalScopeMatch) (scopes : List String) : Prop where
  nonempty : ∀ text ∈ matcher.texts scopes, text ≠ ""
  unused : ∃ c, c ≠ matcher.options.separator ∧ ∀ text ∈ matcher.texts scopes, c ∉ text.toList
  clean : matcher.options.wildcardMatchesMultiSegment = true ∨
    matcher.options.separator ∉ matcher.options.wildcard.toList

section Probe

variable {scopes : List String} {delegated : String} {c : Char}
variable (present : self.options.wildcard ≠ "") (other : c ≠ self.options.separator)
variable (unused : ∀ text ∈ self.texts scopes, c ∉ text.toList)

/-- A requirement that `delegated` satisfies with `c` wherever it has a choice. -/
def probe (c : Char) (delegated : String) : String :=
  .ofList ((self.options.rules present).probe c delegated.toList)

include other

theorem matchesHierarchy_probe :
    self.matchesHierarchy delegated (probe present c delegated) = true := by
  rw [matchesHierarchy_iff present, probe, String.toList_ofList]
  exact Rules.accepts_probe other delegated.toList

theorem eq_probe {text : String} (absent : c ∉ text.toList)
    (same : text = probe present c delegated) : text = delegated := by
  have chars : text.toList = (self.options.rules present).probe c delegated.toList := by
    rw [same, probe, String.toList_ofList]
  rw [chars] at absent
  exact String.toList_inj.mp (chars.trans (Rules.probe_eq_self other absent))

theorem matchesHierarchy_of_probe {text : String} (absent : c ∉ text.toList)
    (clean : self.options.wildcardMatchesMultiSegment = true ∨
      self.options.separator ∉ self.options.wildcard.toList)
    (reached : self.matchesHierarchy text (probe present c delegated) = true) :
    self.matchesHierarchy text delegated = true ∧
      (text = delegated ∨ (self.options.rules present).Within text.toList delegated.toList) := by
  rw [matchesHierarchy_iff present, probe, String.toList_ofList] at reached
  obtain ⟨accepts, within⟩ := Rules.Accepts.of_probe other absent clean reached
  exact ⟨(matchesHierarchy_iff present).mpr accepts, within.imp_left String.toList_inj.mp⟩

include unused

/-- The probe of a scope is exact-only only if the scope itself is. -/
theorem isExactOnlyRequirement_probe
    (clean : self.options.wildcardMatchesMultiSegment = true ∨
      self.options.separator ∉ self.options.wildcard.toList)
    (ordinary : self.isExactOnlyRequirement delegated = false) :
    self.isExactOnlyRequirement (probe present c delegated) = false := by
  have unlisted (text : String) (mem : text ∈ self.options.exactOnlyScopes ++
      self.options.exactOnlyScopePatterns) : c ∉ text.toList :=
    unused text (List.mem_append_right scopes mem)
  simp only [isExactOnlyRequirement, Bool.or_eq_false_iff, List.any_eq_false, beq_iff_eq] at ordinary ⊢
  constructor
  · intro text mem same
    exact ordinary.1 text mem (eq_probe present other (unlisted text (List.mem_append_left _ mem)) same)
  · intro pattern mem reached
    exact ordinary.2 pattern mem (matchesHierarchy_of_probe present other
      (unlisted pattern (List.mem_append_right _ mem)) clean reached).1

end Probe

/-- Only the empty scope reaches the empty requirement without being a super-scope. -/
theorem matchesHierarchy_empty (present : self.options.wildcard ≠ "") (nonempty : granted ≠ "") :
    self.matchesHierarchy granted "" = false := by
  rw [Bool.eq_false_iff, ne_eq, matchesHierarchy_iff present]
  intro accepts
  exact accepts.ne_nil (by simpa using nonempty) rfl

theorem isExactOnlyRequirement_empty {scopes : List String} (present : self.options.wildcard ≠ "")
    (nonempty : ∀ text ∈ self.texts scopes, text ≠ "") :
    self.isExactOnlyRequirement "" = false := by
  simp only [isExactOnlyRequirement, Bool.or_eq_false_iff, List.any_eq_false, beq_iff_eq]
  constructor
  · intro text mem
    exact nonempty text (List.mem_append_right scopes (List.mem_append_left _ mem))
  · intro pattern mem
    rw [matchesHierarchy_empty present
      (nonempty pattern (List.mem_append_right scopes (List.mem_append_right _ mem)))]
    exact Bool.false_ne_true

/-- If a list of scopes holds all that `delegated` grants, one of them covers it. -/
theorem exists_covers {scopes : List String} {delegated : String}
    (present : self.options.wildcard ≠ "") (plain : self.PlainTexts scopes)
    (accepted : self.scopeMatch.hasScope scopes delegated = true)
    (contained : ∀ required, self.scopeMatch.matchesScope delegated required = true →
      self.scopeMatch.hasScope scopes required = true) :
    ∃ scope ∈ scopes, self.scopeMatch.matchesScope scope delegated = true ∧
      self.Covers present scope delegated := by
  obtain ⟨c, other, unused⟩ := plain.unused
  cases exactOnly : self.isExactOnlyRequirement delegated with
  | true =>
      obtain ⟨scope, mem, satisfies⟩ := hasScope_iff.mp accepted
      refine ⟨scope, mem, satisfies, ?_⟩
      rcases (matchesScope_exactOnly exactOnly).mp satisfies with same | ⟨-, super⟩
      · exact .inl same
      · exact .inr (.inl super)
  | false =>
      cases super : self.isConfiguredSuperScope delegated with
      | true =>
          have ordinary := isExactOnlyRequirement_empty present plain.nonempty
          obtain ⟨scope, mem, satisfies⟩ := hasScope_iff.mp
            (contained "" ((matchesScope_ordinary ordinary).mpr (.inr (.inl super))))
          have nonempty := plain.nonempty scope (List.mem_append_left _ mem)
          rw [matchesScope_ordinary ordinary, matchesHierarchy_empty present nonempty] at satisfies
          rcases satisfies with empty | super' | ⟨⟨⟩⟩
          · exact absurd empty nonempty
          · exact ⟨scope, mem, (matchesScope_ordinary exactOnly).mpr (.inr (.inl super')),
              .inr (.inl super')⟩
      | false =>
          have ordinary := isExactOnlyRequirement_probe present other unused plain.clean exactOnly
          have reached : self.scopeMatch.matchesScope delegated (probe present c delegated) = true :=
            (matchesScope_ordinary ordinary).mpr (.inr (.inr (matchesHierarchy_probe present other)))
          obtain ⟨scope, mem, satisfies⟩ := hasScope_iff.mp (contained _ reached)
          have absent : c ∉ scope.toList := unused scope (List.mem_append_left _ mem)
          refine ⟨scope, mem, ?_⟩
          rw [matchesScope_ordinary exactOnly]
          rcases (matchesScope_ordinary ordinary).mp satisfies with same | super' | held
          · have same := eq_probe present other absent same
            exact ⟨.inl same, .inl same⟩
          · exact ⟨.inr (.inl super'), .inr (.inl super')⟩
          · obtain ⟨held, within⟩ := matchesHierarchy_of_probe present other absent plain.clean held
            refine ⟨.inr (.inr held), ?_⟩
            rcases within with same | within
            · exact .inl same
            · exact .inr (.inr ⟨super, within⟩)

end HierarchicalScopeMatch

end AgqlAuth
