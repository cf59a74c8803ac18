import AgqlAuth.Pattern.Segments

/-!
# Wildcard texts as patterns

A text is read in two ways: as a pattern that accepts texts, and as a text that
patterns accept.  The two readings agree only as far as no pattern looks behind
the first wildcard of the text it accepts.
-/

namespace AgqlAuth.Pattern

/-- How texts are read as patterns. -/
structure Rules (α : Type) where
  separator : α
  wildcard : List α
  /-- Whether a trailing wildcard reaches over separators. -/
  multiSegment : Bool
  /-- Whether the bare wildcard accepts every text. -/
  universal : Bool
  wildcard_ne : wildcard ≠ []

/-- What a text is as a pattern. -/
inductive Shape (α : Type) where
  | whole
  | trailing (stem : List α)
  | segments

namespace Rules

variable {α : Type} [DecidableEq α] (rules : Rules α)

def shape (text : List α) : Shape α :=
  if text = rules.wildcard then .whole
  else
    match text.dropSuffix? rules.wildcard with
    | some stem => .trailing stem
    | none => .segments

/-- What a trailing wildcard stands for. -/
def TailFits (rest : List α) : Prop :=
  rules.multiSegment = true ∨ rest ≠ [] ∧ rules.separator ∉ rest

/-- The texts a pattern accepts. -/
inductive Accepts : List α → List α → Prop where
  | same (text : List α) : Accepts text text
  | everything {required : List α} (universal : rules.universal = true)
      (present : required ≠ []) : Accepts rules.wildcard required
  | trailing {stem rest : List α} (present : stem ≠ []) (fits : rules.TailFits rest) :
      Accepts (stem ++ rules.wildcard) (stem ++ rest)
  | segments {granted required : List α} (inner : ¬ rules.wildcard <:+ granted)
      (fits : SegmentsFit rules.wildcard (granted.splitOn rules.separator)
        (required.splitOn rules.separator)) : Accepts granted required

/-- What every text accepted by `text` starts with. -/
def fixedPart (text : List α) : List α :=
  match rules.shape text with
  | .whole => if rules.universal then [] else text
  | .trailing stem => stem
  | .segments => fixedPrefix rules.separator rules.wildcard (text.splitOn rules.separator)

/-- A text accepted by `text` that has `c` wherever there is a choice. -/
def probe (c : α) (text : List α) : List α :=
  match rules.shape text with
  | .whole => if rules.universal then [c] else text
  | .trailing stem => stem ++ [c]
  | .segments => [rules.separator].intercalate
      (fillSegments rules.wildcard c (text.splitOn rules.separator))

/-- If `granted` ends in the wildcard, its stem lies before the wildcards of `text`. -/
def Within (granted text : List α) : Prop :=
  ∀ stem, granted = stem ++ rules.wildcard → stem <+: rules.fixedPart text

instance (granted text : List α) : Decidable (rules.Within granted text) :=
  match split : granted.dropSuffix? rules.wildcard with
  | none => .isTrue fun stem same => by
      have found : granted.dropSuffix? rules.wildcard = some stem :=
        List.dropSuffix?_eq_some_iff.mpr ⟨rules.wildcard, same, beq_self_eq_true _⟩
      cases split.symm.trans found
  | some stem => decidable_of_iff (stem <+: rules.fixedPart text) <| by
      obtain ⟨ending, rfl, same⟩ := List.dropSuffix?_eq_some_iff.mp split
      rw [eq_of_beq same]
      refine ⟨fun starts stem' split => ?_, fun within => within stem rfl⟩
      rw [← List.append_cancel_right split]
      exact starts

variable {rules}

omit [DecidableEq α] in
theorem append_wildcard_ne {stem : List α} (present : stem ≠ []) :
    stem ++ rules.wildcard ≠ rules.wildcard := by
  intro same
  exact present (List.append_left_eq_self.mp same)

theorem shape_whole : rules.shape rules.wildcard = .whole := if_pos rfl

theorem shape_trailing {stem : List α} (present : stem ≠ []) :
    rules.shape (stem ++ rules.wildcard) = .trailing stem := by
  have split : (stem ++ rules.wildcard).dropSuffix? rules.wildcard = some stem :=
    List.dropSuffix?_eq_some_iff.mpr ⟨rules.wildcard, rfl, beq_self_eq_true _⟩
  rw [shape, if_neg (append_wildcard_ne present), split]

theorem shape_segments {text : List α} (inner : ¬ rules.wildcard <:+ text) :
    rules.shape text = .segments := by
  have other : text ≠ rules.wildcard := fun same => inner (same ▸ List.suffix_refl _)
  cases split : text.dropSuffix? rules.wildcard with
  | none => rw [shape, if_neg other, split]
  | some stem =>
      obtain ⟨ending, rfl, same⟩ := List.dropSuffix?_eq_some_iff.mp split
      rw [eq_of_beq same] at inner
      exact absurd (List.suffix_append ..) inner

/-- The three shapes, as forms of the text. -/
theorem shape_cases (rules : Rules α) (text : List α) :
    text = rules.wildcard ∨ (∃ stem, stem ≠ [] ∧ text = stem ++ rules.wildcard) ∨
      ¬ rules.wildcard <:+ text := by
  by_cases ends : rules.wildcard <:+ text
  · obtain ⟨stem, rfl⟩ := ends
    by_cases empty : stem = []
    · exact .inl (by rw [empty, List.nil_append])
    · exact .inr (.inl ⟨stem, empty, rfl⟩)
  · exact .inr (.inr ends)

theorem fixedPart_whole :
    rules.fixedPart rules.wildcard = if rules.universal then [] else rules.wildcard := by
  rw [fixedPart, shape_whole]

theorem fixedPart_trailing {stem : List α} (present : stem ≠ []) :
    rules.fixedPart (stem ++ rules.wildcard) = stem := by
  rw [fixedPart, shape_trailing present]

theorem fixedPart_segments {text : List α} (inner : ¬ rules.wildcard <:+ text) :
    rules.fixedPart text =
      fixedPrefix rules.separator rules.wildcard (text.splitOn rules.separator) := by
  rw [fixedPart, shape_segments inner]

theorem probe_whole {c : α} :
    rules.probe c rules.wildcard = if rules.universal then [c] else rules.wildcard := by
  rw [probe, shape_whole]

theorem probe_trailing {c : α} {stem : List α} (present : stem ≠ []) :
    rules.probe c (stem ++ rules.wildcard) = stem ++ [c] := by
  rw [probe, shape_trailing present]

theorem probe_segments {c : α} {text : List α} (inner : ¬ rules.wildcard <:+ text) :
    rules.probe c text = [rules.separator].intercalate
      (fillSegments rules.wildcard c (text.splitOn rules.separator)) := by
  rw [probe, shape_segments inner]

variable {granted text required : List α}

theorem accepts_whole :
    rules.Accepts rules.wildcard required ↔
      rules.wildcard = required ∨ rules.universal = true ∧ required ≠ [] := by
  constructor
  · intro accepts
    generalize whole : rules.wildcard = granted at accepts
    cases accepts with
    | same => exact .inl rfl
    | everything universal present => exact .inr ⟨universal, present⟩
    | trailing present _ => exact absurd whole.symm (append_wildcard_ne present)
    | segments inner _ => exact absurd (whole ▸ List.suffix_refl _) inner
  · rintro (rfl | ⟨universal, present⟩)
    · exact .same _
    · exact .everything universal present

theorem accepts_trailing {stem : List α} (present : stem ≠ []) :
    rules.Accepts (stem ++ rules.wildcard) required ↔
      stem ++ rules.wildcard = required ∨
        ∃ rest, required = stem ++ rest ∧ rules.TailFits rest := by
  constructor
  · intro accepts
    generalize whole : stem ++ rules.wildcard = granted at accepts
    cases accepts with
    | same => exact .inl rfl
    | everything _ _ => exact absurd whole (append_wildcard_ne present)
    | @trailing _ rest _ fits =>
        rw [List.append_cancel_right whole]
        exact .inr ⟨rest, rfl, fits⟩
    | segments inner _ => exact absurd (whole ▸ List.suffix_append ..) inner
  · rintro (rfl | ⟨rest, rfl, fits⟩)
    · exact .same _
    · exact .trailing present fits

theorem accepts_segments (inner : ¬ rules.wildcard <:+ granted) :
    rules.Accepts granted required ↔
      SegmentsFit rules.wildcard (granted.splitOn rules.separator)
        (required.splitOn rules.separator) := by
  constructor
  · intro accepts
    cases accepts with
    | same => exact List.forall₂_same.mpr fun _ _ => .inr rfl
    | everything _ _ => exact absurd (List.suffix_refl _) inner
    | trailing _ _ => exact absurd (List.suffix_append ..) inner
    | segments _ fits => exact fits
  · exact .segments inner

theorem accepts_nil : rules.Accepts [] required ↔ required = [] := by
  have inner : ¬ rules.wildcard <:+ [] := fun ends => rules.wildcard_ne (List.suffix_nil.mp ends)
  rw [accepts_segments inner, List.splitOn_nil]
  constructor
  · intro fits
    have fixed : rules.wildcard ∉ [[]] := by simpa using rules.wildcard_ne
    exact (splitOn_injective ((List.splitOn_nil _).trans (fits.eq_of_fixed fixed))).symm
  · rintro rfl
    exact List.forall₂_same.mpr fun _ _ => .inr rfl

/-- Rules that give the bare wildcard at least as much accept at least as much. -/
theorem Accepts.mono {other : Rules α} (separator : rules.separator = other.separator)
    (wildcard : rules.wildcard = other.wildcard)
    (multiSegment : rules.multiSegment = other.multiSegment)
    (universal : rules.universal = true → required ≠ [] → other.universal = true)
    (accepts : rules.Accepts granted required) : other.Accepts granted required := by
  cases accepts with
  | same => exact .same _
  | everything whole present => exact wildcard ▸ .everything (universal whole present) present
  | trailing present fits =>
      unfold TailFits at fits
      rw [separator, multiSegment] at fits
      exact wildcard ▸ .trailing present fits
  | segments inner fits =>
      rw [separator, wildcard] at fits
      exact .segments (wildcard ▸ inner) fits

theorem Accepts.ne_nil (accepts : rules.Accepts granted required) (present : granted ≠ []) :
    required ≠ [] := by
  cases accepts with
  | same => exact present
  | everything _ nonempty => exact nonempty
  | trailing nonempty _ => exact List.append_ne_nil_of_left_ne_nil nonempty _
  | segments inner fits =>
      rintro rfl
      obtain ⟨segment, others, fitting, none, split⟩ := List.forall₂_cons_right_iff.mp fits
      rw [List.forall₂_nil_right_iff.mp none] at split
      rcases fitting with free | empty
      · have ends : segment <:+ granted := last_suffix (split.trans (List.nil_append _).symm)
        exact inner (free ▸ ends)
      · rw [empty] at split
        exact present (splitOn_injective (split.trans (List.splitOn_nil _).symm))

theorem fixedPart_starts (accepts : rules.Accepts text required) :
    rules.fixedPart text <+: required := by
  have own (text : List α) (inner : ¬ rules.wildcard <:+ text) {other : List α}
      (fits : SegmentsFit rules.wildcard (text.splitOn rules.separator)
        (other.splitOn rules.separator)) : rules.fixedPart text <+: other := by
    have starts : fixedPrefix rules.separator rules.wildcard (text.splitOn rules.separator) <+:
        [rules.separator].intercalate (other.splitOn rules.separator) := fixedPrefix_starts fits
    rwa [List.intercalate_splitOn, ← fixedPart_segments inner] at starts
  cases accepts with
  | same =>
      rcases rules.shape_cases text with rfl | ⟨stem, present, rfl⟩ | inner
      · rw [fixedPart_whole]
        split
        · exact List.nil_prefix
        · exact List.prefix_refl _
      · rw [fixedPart_trailing present]
        exact List.prefix_append ..
      · exact own text inner (List.forall₂_same.mpr fun _ _ => .inr rfl)
  | everything universal _ =>
      rw [fixedPart_whole, if_pos universal]
      exact List.nil_prefix
  | trailing present _ =>
      rw [fixedPart_trailing present]
      exact List.prefix_append ..
  | segments inner fits => exact own text inner fits

/-- Without a wildcard a text accepts itself only. -/
theorem fixedPart_cases (inner : ¬ rules.wildcard <:+ text) :
    (∀ {required}, SegmentsFit rules.wildcard (text.splitOn rules.separator)
        (required.splitOn rules.separator) → text = required) ∨
      ∃ rest, text = rules.fixedPart text ++ rules.wildcard ++ rules.separator :: rest := by
  have whole : [rules.separator].intercalate (text.splitOn rules.separator) = text :=
    List.intercalate_splitOn _
  rcases fixedPrefix_cases (text.splitOn rules.separator) with ⟨fixed, -⟩ | ends | ⟨rest, split⟩
  · exact .inl fun fits => splitOn_injective (fits.eq_of_fixed fixed)
  · rw [whole] at ends
    exact absurd (ends ▸ List.suffix_append ..) inner
  · rw [whole, ← fixedPart_segments inner] at split
    exact .inr ⟨rest, split⟩

/-- What a trailing wildcard reaches over, it reaches in every text accepted by `text`. -/
theorem trailing_trans {stem rest : List α} (present : stem ≠ []) (fits : rules.TailFits rest)
    (fixed : stem <+: rules.fixedPart (stem ++ rest))
    (accepts : rules.Accepts (stem ++ rest) required) :
    rules.Accepts (stem ++ rules.wildcard) required := by
  obtain ⟨tail, rfl⟩ := fixed.trans (fixedPart_starts accepts)
  refine .trailing present ?_
  rcases fits with multi | ⟨nonempty, clean⟩
  · exact .inl multi
  generalize shown : stem ++ tail = result at accepts
  generalize read : stem ++ rest = text at accepts fixed
  cases accepts with
  | same =>
      rw [← read] at shown
      rw [List.append_cancel_left shown]
      exact .inr ⟨nonempty, clean⟩
  | everything universal _ =>
      rw [fixedPart_whole, if_pos universal] at fixed
      exact absurd (List.prefix_nil.mp fixed) present
  | @trailing inner_stem inner_rest inner_present inner_fits =>
      rw [fixedPart_trailing inner_present] at fixed
      obtain ⟨more, rfl⟩ := fixed
      rw [List.append_assoc] at read shown
      have rest_eq := List.append_cancel_left read
      have tail_eq := List.append_cancel_left shown
      rcases inner_fits with multi | ⟨inner_nonempty, inner_clean⟩
      · exact .inl multi
      · refine .inr ⟨by simp [tail_eq, inner_nonempty], ?_⟩
        rw [rest_eq, List.mem_append, not_or] at clean
        rw [tail_eq, List.mem_append, not_or]
        exact ⟨clean.1, inner_clean⟩
  | segments inner inner_fits =>
      rcases fixedPart_cases inner with only | ⟨after, split⟩
      · have same := only inner_fits
        rw [← shown, ← read] at same
        rw [← List.append_cancel_left same]
        exact .inr ⟨nonempty, clean⟩
      · obtain ⟨more, longer⟩ := fixed
        rw [← longer, ← read, List.append_assoc, List.append_assoc] at split
        rw [List.append_cancel_left split] at clean
        exact absurd (by simp) clean

/-- Acceptance is transitive as long as no pattern looks behind a wildcard. -/
theorem Accepts.trans (first : rules.Accepts granted text)
    (within : granted = text ∨ rules.Within granted text)
    (second : rules.Accepts text required) : rules.Accepts granted required := by
  rcases within with rfl | within
  · exact second
  cases first with
  | same => exact second
  | everything universal present => exact .everything universal (second.ne_nil present)
  | trailing present fits => exact trailing_trans present fits (within _ rfl) second
  | segments inner fits =>
      cases second with
      | same => exact .segments inner fits
      | everything _ _ => exact absurd (fits.suffix_wildcard (List.suffix_refl _)) inner
      | trailing _ _ => exact absurd (fits.suffix_wildcard (List.suffix_append ..)) inner
      | segments _ next => exact .segments inner (fits.trans next)

theorem splitOn_probe {c : α} (other : c ≠ rules.separator) (inner : ¬ rules.wildcard <:+ text) :
    (rules.probe c text).splitOn rules.separator =
      fillSegments rules.wildcard c (text.splitOn rules.separator) := by
  rw [probe_segments inner]
  refine List.splitOn_intercalate _ ?_ (by simp [fillSegments])
  intro segment mem
  obtain ⟨source, listed, rfl⟩ := List.mem_map.mp mem
  split
  · simpa using Ne.symm other
  · exact sep_not_mem_of_mem_splitOn listed

theorem count_probe {c : α} (other : c ≠ rules.separator) (inner : ¬ rules.wildcard <:+ text) :
    (rules.probe c text).count rules.separator = text.count rules.separator := by
  have lengths := congrArg List.length (splitOn_probe other inner)
  rw [length_splitOn, length_fillSegments, length_splitOn] at lengths
  omega

theorem accepts_probe {c : α} (other : c ≠ rules.separator) (text : List α) :
    rules.Accepts text (rules.probe c text) := by
  rcases rules.shape_cases text with rfl | ⟨stem, present, rfl⟩ | inner
  · rw [probe_whole]
    split
    · exact .everything ‹_› (List.cons_ne_nil c [])
    · exact .same _
  · rw [probe_trailing present]
    exact .trailing present (.inr ⟨List.cons_ne_nil c [], by simpa using Ne.symm other⟩)
  · refine .segments inner ?_
    rw [splitOn_probe other inner]
    exact segmentsFit_fill _

/-- A probe without its symbol had no wildcard to fill. -/
theorem probe_eq_self {c : α} (other : c ≠ rules.separator) (unused : c ∉ rules.probe c text) :
    rules.probe c text = text := by
  rcases rules.shape_cases text with rfl | ⟨stem, present, rfl⟩ | inner
  · rw [probe_whole] at unused ⊢
    split
    · rename_i universal
      simp [universal] at unused
    · rfl
  · rw [probe_trailing present] at unused
    simp at unused
  · have fixed : rules.wildcard ∉ text.splitOn rules.separator := by
      intro mem
      have filled : [c] ∈ (rules.probe c text).splitOn rules.separator := by
        rw [splitOn_probe other inner]
        exact List.mem_map.mpr ⟨_, mem, if_pos rfl⟩
      exact unused (mem_of_mem_splitOn filled (List.mem_singleton_self c)).1
    rw [probe_segments inner, fillSegments_eq_self fixed, List.intercalate_splitOn]

/-- Where a text is fixed throughout, every pattern stays within it. -/
theorem within_of_fixed (fixed : rules.fixedPart text = text)
    (accepts : rules.Accepts granted text) : rules.Within granted text := by
  rintro stem split
  rw [fixed]
  cases accepts with
  | same => exact split ▸ List.prefix_append ..
  | everything _ _ =>
      rw [List.append_left_eq_self.mp split.symm]
      exact List.nil_prefix
  | trailing _ _ =>
      rw [← List.append_cancel_right split]
      exact List.prefix_append ..
  | segments inner _ => exact absurd (split ▸ List.suffix_append ..) inner

section Fresh

variable {c : α} (other : c ≠ rules.separator) (unused : c ∉ granted)

include other unused

/-- Only a wildcard at its end lets a pattern accept the symbol at the end of a text. -/
theorem suffix_of_accepts_symbol (stem : List α)
    (accepts : rules.Accepts granted (stem ++ [c])) : rules.wildcard <:+ granted := by
  generalize shown : stem ++ [c] = answer at accepts
  cases accepts with
  | same =>
      rw [← shown] at unused
      simp at unused
  | everything _ _ => exact List.suffix_refl _
  | trailing _ _ => exact List.suffix_append ..
  | segments _ fits =>
      rw [← shown] at fits
      rcases fits.suffix (by simpa using Ne.symm other) with ends | ends
      · exact ends
      · exact absurd (ends.mem (List.mem_singleton_self c)) unused

/-- No other pattern than the bare wildcard accepts the symbol alone. -/
theorem eq_wildcard_of_accepts_symbol (accepts : rules.Accepts granted [c]) :
    granted = rules.wildcard := by
  obtain ⟨stem, rfl⟩ : rules.wildcard <:+ granted :=
    suffix_of_accepts_symbol other unused [] accepts
  rw [List.mem_append, not_or] at unused
  by_cases present : stem = []
  · rw [present, List.nil_append]
  have starts : stem <+: [] ++ [c] := by
    have fixed := fixedPart_starts accepts
    rwa [fixedPart_trailing present] at fixed
  rcases List.prefix_concat_iff.mp starts with rfl | empty
  · simp at unused
  · exact absurd (List.prefix_nil.mp empty) present

theorem Accepts.of_probe_trailing {own : List α} (present : own ≠ [])
    (clean : rules.multiSegment = true ∨ rules.separator ∉ rules.wildcard)
    (accepts : rules.Accepts granted (own ++ [c])) :
    rules.Accepts granted (own ++ rules.wildcard) ∧
      rules.Within granted (own ++ rules.wildcard) := by
  have ends := suffix_of_accepts_symbol other unused own accepts
  generalize shown : own ++ [c] = answer at accepts
  cases accepts with
  | same =>
      rw [← shown] at unused
      simp at unused
  | everything universal _ =>
      refine ⟨.everything universal (List.append_ne_nil_of_left_ne_nil present _), ?_⟩
      intro stem split
      rw [List.append_left_eq_self.mp split.symm]
      exact List.nil_prefix
  | @trailing stem rest stem_present fits =>
      rw [List.mem_append, not_or] at unused
      have starts : stem <+: own ++ [c] := ⟨rest, shown.symm⟩
      rcases List.prefix_concat_iff.mp starts with rfl | ⟨more, rfl⟩
      · simp at unused
      rw [List.append_assoc] at shown
      have rest_eq := List.append_cancel_left shown
      refine ⟨?_, ?_⟩
      · rw [List.append_assoc]
        refine .trailing stem_present ?_
        rcases fits with multi | ⟨-, rest_clean⟩
        · exact .inl multi
        · refine clean.imp_right fun clean => ?_
          refine ⟨List.append_ne_nil_of_right_ne_nil _ rules.wildcard_ne, ?_⟩
          rw [← rest_eq, List.mem_append, not_or] at rest_clean
          rw [List.mem_append, not_or]
          exact ⟨rest_clean.1, clean⟩
      · intro stem' split
        rw [← List.append_cancel_right split, fixedPart_trailing present]
        exact List.prefix_append ..
  | segments inner _ => exact absurd ends inner

theorem Accepts.of_probe_segments (inner : ¬ rules.wildcard <:+ text)
    (accepts : rules.Accepts granted (rules.probe c text)) :
    rules.Accepts granted text ∧ (granted = text ∨ rules.Within granted text) := by
  generalize probed : rules.probe c text = answer at accepts
  cases accepts with
  | same =>
      rw [← probed] at unused
      rw [← probed, probe_eq_self other unused]
      exact ⟨.same _, .inl rfl⟩
  | everything universal present =>
      refine ⟨.everything universal ?_, .inr ?_⟩
      · rintro rfl
        rw [← probed, probe_segments inner] at present
        simp [fillSegments, Ne.symm rules.wildcard_ne] at present
      · intro stem split
        rw [List.append_left_eq_self.mp split.symm]
        exact List.nil_prefix
  | @trailing stem rest present fits =>
      rw [List.mem_append, not_or] at unused
      have starts : stem <+: rules.fixedPart text := by
        rw [fixedPart_segments inner]
        apply prefix_fixedPrefix _ unused.1
        rw [← probe_segments inner, probed]
        exact List.prefix_append ..
      have within : rules.Within (stem ++ rules.wildcard) text := by
        intro stem' split
        rw [← List.append_cancel_right split]
        exact starts
      refine ⟨?_, .inr within⟩
      obtain ⟨more, rfl⟩ := starts.trans (fixedPart_starts (.same text))
      refine .trailing present ?_
      rcases fits with multi | ⟨nonempty, rest_clean⟩
      · exact .inl multi
      rcases fixedPart_cases inner with only | ⟨after, split⟩
      · have filled : SegmentsFit rules.wildcard ((stem ++ more).splitOn rules.separator)
            ((rules.probe c (stem ++ more)).splitOn rules.separator) := by
          rw [splitOn_probe other inner]
          exact segmentsFit_fill _
        rw [List.append_cancel_left ((only filled).trans probed)]
        exact .inr ⟨nonempty, rest_clean⟩
      · obtain ⟨fixed, longer⟩ := starts
        rw [← longer, List.append_assoc, List.append_assoc] at split
        have counts := count_probe other inner
        rw [probed, List.append_cancel_left split] at counts
        simp [List.count_eq_zero_of_not_mem rest_clean] at counts
  | segments outer fits =>
      refine ⟨.segments outer ?_, .inr fun stem split => absurd (split ▸ List.suffix_append ..) outer⟩
      rw [← probed, splitOn_probe other inner] at fits
      refine SegmentsFit.of_fill ?_ fits
      intro segment mem inside
      exact unused (mem_of_mem_splitOn mem inside).1

/-- A pattern that accepts the probe, without using its symbol, accepts nothing by chance. -/
theorem Accepts.of_probe (clean : rules.multiSegment = true ∨ rules.separator ∉ rules.wildcard)
    (accepts : rules.Accepts granted (rules.probe c text)) :
    rules.Accepts granted text ∧ (granted = text ∨ rules.Within granted text) := by
  rcases rules.shape_cases text with rfl | ⟨own, present, rfl⟩ | inner
  · rw [probe_whole] at accepts
    split at accepts
    · rw [eq_wildcard_of_accepts_symbol other unused accepts]
      exact ⟨.same _, .inl rfl⟩
    · rename_i fixed
      refine ⟨accepts, .inr (within_of_fixed ?_ accepts)⟩
      rw [fixedPart_whole, if_neg fixed]
  · rw [probe_trailing present] at accepts
    have read := Accepts.of_probe_trailing other unused present clean accepts
    exact ⟨read.1, .inr read.2⟩
  · exact Accepts.of_probe_segments other unused inner accepts

end Fresh

end Rules

end AgqlAuth.Pattern
