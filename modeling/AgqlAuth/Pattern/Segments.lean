import Mathlib.Data.List.Forall2

/-!
# Texts in segments

A text over any alphabet, split at a separator.  Wildcard segments stand for any
one segment; the fixed prefix of a text is what comes before its first wildcard
segment, and its probe fills every wildcard segment with one chosen symbol.
-/

namespace AgqlAuth.Pattern

variable {α : Type} {sep : α}

theorem last_suffix_intercalate (sep : α) (init : List (List α)) (last : List α) :
    last <:+ [sep].intercalate (init ++ [last]) := by
  induction init with
  | nil => simp
  | cons first init ih =>
      rw [List.cons_append, List.intercalate_cons_of_ne_nil (by simp)]
      exact ih.trans (List.suffix_append ..)

theorem intercalate_cons_cons_eq (segment next : List α) (rest : List (List α)) :
    [sep].intercalate (segment :: next :: rest) =
      segment ++ sep :: [sep].intercalate (next :: rest) := by
  simp [List.intercalate_cons_cons]

/-- Joined texts agree in both parts, or one first part goes on past the other's separator. -/
theorem joined_eq_joined_iff {a b x y : List α} :
    a ++ sep :: x = b ++ sep :: y ↔
      (a = b ∧ x = y) ∨ (∃ middle, a = b ++ sep :: middle ∧ y = middle ++ sep :: x) ∨
        ∃ middle, b = a ++ sep :: middle ∧ x = middle ++ sep :: y := by
  rw [List.append_eq_append_iff]
  constructor
  · rintro (⟨middle, rfl, rest⟩ | ⟨middle, rfl, rest⟩)
    · cases middle with
      | nil =>
          cases rest
          exact .inl ⟨by simp, rfl⟩
      | cons head middle =>
          cases rest
          exact .inr (.inr ⟨middle, rfl, rfl⟩)
    · cases middle with
      | nil =>
          cases rest
          exact .inl ⟨by simp, rfl⟩
      | cons head middle =>
          cases rest
          exact .inr (.inl ⟨middle, rfl, rfl⟩)
  · rintro (⟨rfl, rfl⟩ | ⟨middle, rfl, rfl⟩ | ⟨middle, rfl, rfl⟩)
    · exact .inl ⟨[], by simp, rfl⟩
    · exact .inr ⟨sep :: middle, rfl, rfl⟩
    · exact .inl ⟨sep :: middle, rfl, rfl⟩

/-- Which first parts can be joined to one text. -/
theorem exists_joined_eq_iff {a b : List α} :
    (∃ x y, a ++ sep :: x = b ++ sep :: y) ↔
      a = b ∨ b ++ [sep] <+: a ∨ a ++ [sep] <+: b := by
  simp only [joined_eq_joined_iff]
  constructor
  · rintro ⟨x, y, ⟨rfl, -⟩ | ⟨middle, rfl, -⟩ | ⟨middle, rfl, -⟩⟩
    · exact .inl rfl
    · exact .inr (.inl ⟨middle, by simp⟩)
    · exact .inr (.inr ⟨middle, by simp⟩)
  · rintro (rfl | ⟨middle, rfl⟩ | ⟨middle, rfl⟩)
    · exact ⟨[], [], .inl ⟨rfl, rfl⟩⟩
    · exact ⟨[], middle ++ [sep], .inr (.inl ⟨middle, by simp, rfl⟩)⟩
    · exact ⟨middle ++ [sep], [], .inr (.inr ⟨middle, by simp, rfl⟩)⟩

variable (wildcard : List α)

/-- A wildcard segment stands for any one segment. -/
def SegmentFits (granted required : List α) : Prop := granted = wildcard ∨ granted = required

abbrev SegmentsFit : List (List α) → List (List α) → Prop := List.Forall₂ (SegmentFits wildcard)

variable {wildcard} {granted middle required : List (List α)}

theorem SegmentsFit.trans (first : SegmentsFit wildcard granted middle)
    (second : SegmentsFit wildcard middle required) : SegmentsFit wildcard granted required := by
  induction first generalizing required with
  | nil => exact second
  | cons head _ ih =>
      cases second with
      | cons next rest =>
          refine .cons ?_ (ih rest)
          rcases head with free | rfl
          · exact .inl free
          · exact next

theorem SegmentsFit.eq_of_fixed (fits : SegmentsFit wildcard granted required)
    (fixed : wildcard ∉ granted) : granted = required := by
  induction fits with
  | nil => rfl
  | cons head _ ih =>
      rw [List.mem_cons, not_or] at fixed
      rw [ih fixed.2, head.resolve_left (Ne.symm fixed.1)]

theorem SegmentsFit.last {last : List α}
    (fits : SegmentsFit wildcard granted (required ++ [last])) :
    ∃ init segment, granted = init ++ [segment] ∧ SegmentFits wildcard segment last := by
  induction required generalizing granted with
  | nil =>
      cases fits with
      | cons head rest =>
          cases rest
          exact ⟨[], _, rfl, head⟩
  | cons first required ih =>
      cases fits with
      | cons head rest =>
          obtain ⟨init, segment, rfl, fitting⟩ := ih rest
          exact ⟨_ :: init, segment, rfl, fitting⟩

variable [DecidableEq α]

theorem mem_of_mem_splitOn {text segment : List α} {a : α} (mem : segment ∈ text.splitOn sep)
    (inside : a ∈ segment) : a ∈ text ∧ a ≠ sep := by
  induction text generalizing segment with
  | nil =>
      rw [List.splitOn_nil, List.mem_singleton] at mem
      subst mem
      cases inside
  | cons b text ih =>
      rw [List.splitOn_cons_eq_if_modifyHead] at mem
      split at mem
      · rcases List.mem_cons.mp mem with rfl | mem
        · cases inside
        · exact ⟨List.mem_cons_of_mem b (ih mem inside).1, (ih mem inside).2⟩
      · rename_i other
        obtain ⟨first, rest, split⟩ := List.exists_cons_of_ne_nil (List.splitOn_ne_nil sep text)
        rw [split, List.modifyHead_cons] at mem
        rw [split] at ih
        rcases List.mem_cons.mp mem with rfl | mem
        · rcases List.mem_cons.mp inside with rfl | inside
          · exact ⟨List.mem_cons_self, fun same => other (beq_iff_eq.mpr same)⟩
          · have older := ih List.mem_cons_self inside
            exact ⟨List.mem_cons_of_mem b older.1, older.2⟩
        · have older := ih (List.mem_cons_of_mem first mem) inside
          exact ⟨List.mem_cons_of_mem b older.1, older.2⟩

theorem sep_not_mem_of_mem_splitOn {text segment : List α} (mem : segment ∈ text.splitOn sep) :
    sep ∉ segment :=
  fun inside => (mem_of_mem_splitOn mem inside).2 rfl

theorem splitOn_injective : Function.Injective (List.splitOn sep) := by
  intro text other same
  calc text = [sep].intercalate (text.splitOn sep) := (List.intercalate_splitOn sep).symm
    _ = [sep].intercalate (other.splitOn sep) := by rw [same]
    _ = other := List.intercalate_splitOn sep

theorem length_splitOn (sep : α) (text : List α) :
    (text.splitOn sep).length = text.count sep + 1 := by
  induction text with
  | nil => rfl
  | cons a text ih =>
      rw [List.splitOn_cons_eq_if_modifyHead, List.count_cons]
      split
      · rw [List.length_cons, ih]
      · rw [List.length_modifyHead, ih, Nat.add_zero]

/-- Text without a separator only extends the last segment. -/
theorem splitOn_append_last (sep : α) (text : List α) :
    ∃ init last, text.splitOn sep = init ++ [last] ∧
      ∀ more, sep ∉ more → (text ++ more).splitOn sep = init ++ [last ++ more] := by
  induction text with
  | nil => exact ⟨[], [], rfl, fun more clean => List.splitOn_eq_singleton clean⟩
  | cons a text ih =>
      obtain ⟨init, last, split, extended⟩ := ih
      by_cases same : a = sep
      · refine ⟨[] :: init, last, ?_, fun more clean => ?_⟩
        · simp [List.splitOn_cons_eq_if_modifyHead, same, split]
        · simp [List.splitOn_cons_eq_if_modifyHead, same, extended more clean]
      · cases init with
        | nil =>
            refine ⟨[], a :: last, ?_, fun more clean => ?_⟩
            · simp [List.splitOn_cons_eq_if_modifyHead, same, split]
            · simp [List.splitOn_cons_eq_if_modifyHead, same, extended more clean]
        | cons first init =>
            refine ⟨(a :: first) :: init, last, ?_, fun more clean => ?_⟩
            · simp [List.splitOn_cons_eq_if_modifyHead, same, split]
            · simp [List.splitOn_cons_eq_if_modifyHead, same, extended more clean]

theorem last_suffix {text last : List α} {init : List (List α)}
    (split : text.splitOn sep = init ++ [last]) : last <:+ text := by
  have suffix := last_suffix_intercalate sep init last
  rwa [← split, List.intercalate_splitOn] at suffix

/-- A text that fits one ending in text `more` ends in the wildcard or in `more`. -/
theorem SegmentsFit.suffix {text stem more : List α} (clean : sep ∉ more)
    (fits : SegmentsFit wildcard (text.splitOn sep) ((stem ++ more).splitOn sep)) :
    wildcard <:+ text ∨ more <:+ text := by
  obtain ⟨init, last, -, extended⟩ := splitOn_append_last sep stem
  rw [extended more clean] at fits
  obtain ⟨init', segment, split, free | same⟩ := fits.last
  · exact .inl (free ▸ last_suffix split)
  · exact .inr ((List.suffix_append last more).trans (same ▸ last_suffix split))

/-- A wildcard with a separator in it is never a segment. -/
theorem SegmentsFit.suffix_wildcard {text other : List α}
    (fits : SegmentsFit wildcard (text.splitOn sep) (other.splitOn sep))
    (ends : wildcard <:+ other) : wildcard <:+ text := by
  by_cases clean : sep ∈ wildcard
  · have fixed : wildcard ∉ text.splitOn sep := fun mem => sep_not_mem_of_mem_splitOn mem clean
    rw [splitOn_injective (fits.eq_of_fixed fixed)]
    exact ends
  · obtain ⟨stem, rfl⟩ := ends
    exact (fits.suffix clean).elim id id

variable (sep wildcard)

/-- What comes before the first wildcard segment. -/
def fixedPrefix : List (List α) → List α
  | [] => []
  | [segment] => if segment = wildcard then [] else segment
  | segment :: rest => if segment = wildcard then [] else segment ++ sep :: fixedPrefix rest

variable {sep wildcard}

theorem fixedPrefix_free (rest : List (List α)) :
    fixedPrefix sep wildcard (wildcard :: rest) = [] := by
  cases rest <;> simp [fixedPrefix]

theorem fixedPrefix_cons_cons {segment next : List α} (fixed : segment ≠ wildcard)
    (rest : List (List α)) :
    fixedPrefix sep wildcard (segment :: next :: rest) =
      segment ++ sep :: fixedPrefix sep wildcard (next :: rest) := by
  rw [fixedPrefix, if_neg fixed]
  nofun

theorem fixedPrefix_starts (fits : SegmentsFit wildcard granted required) :
    fixedPrefix sep wildcard granted <+: [sep].intercalate required := by
  induction fits with
  | nil => exact List.nil_prefix
  | @cons segment other rest others head tail ih =>
      by_cases free : segment = wildcard
      · subst free
        rw [fixedPrefix_free]
        exact List.nil_prefix
      · have same := head.resolve_left free
        subst same
        cases tail with
        | nil => simp [fixedPrefix, free]
        | cons next tail =>
            rw [fixedPrefix_cons_cons free, intercalate_cons_cons_eq]
            exact (List.prefix_append_right_inj segment).mpr
              ((List.prefix_cons_inj sep).mpr ih)

/-- A text is fixed throughout, or a wildcard segment follows its fixed prefix. -/
theorem fixedPrefix_cases (segments : List (List α)) :
    wildcard ∉ segments ∧ fixedPrefix sep wildcard segments = [sep].intercalate segments ∨
      [sep].intercalate segments = fixedPrefix sep wildcard segments ++ wildcard ∨
      ∃ rest, [sep].intercalate segments =
        fixedPrefix sep wildcard segments ++ wildcard ++ sep :: rest := by
  induction segments with
  | nil => exact .inl ⟨List.not_mem_nil, rfl⟩
  | cons segment rest ih =>
      by_cases free : segment = wildcard
      · subst free
        rw [fixedPrefix_free]
        cases rest with
        | nil => exact .inr (.inl (by simp))
        | cons next rest => exact .inr (.inr ⟨_, intercalate_cons_cons_eq segment next rest⟩)
      · cases rest with
        | nil => exact .inl ⟨by simpa using Ne.symm free, by simp [fixedPrefix, free]⟩
        | cons next rest =>
            rw [fixedPrefix_cons_cons free, intercalate_cons_cons_eq]
            rcases ih with ⟨fixed, same⟩ | same | ⟨tail, same⟩
            · refine .inl ⟨?_, by rw [same]⟩
              rw [List.mem_cons, not_or]
              exact ⟨Ne.symm free, fixed⟩
            · exact .inr (.inl (by simp [same]))
            · exact .inr (.inr ⟨tail, by simp [same]⟩)

variable (wildcard)

/-- Every wildcard segment filled with the symbol `c`. -/
def fillSegments (c : α) (segments : List (List α)) : List (List α) :=
  segments.map fun segment => if segment = wildcard then [c] else segment

variable {wildcard} {c : α}

theorem fillSegments_free (rest : List (List α)) :
    fillSegments wildcard c (wildcard :: rest) = [c] :: fillSegments wildcard c rest := by
  simp [fillSegments]

theorem fillSegments_fixed {segment : List α} (fixed : segment ≠ wildcard)
    (rest : List (List α)) :
    fillSegments wildcard c (segment :: rest) = segment :: fillSegments wildcard c rest := by
  simp [fillSegments, fixed]

theorem length_fillSegments (segments : List (List α)) :
    (fillSegments wildcard c segments).length = segments.length :=
  List.length_map _

theorem fillSegments_eq_self {segments : List (List α)} (fixed : wildcard ∉ segments) :
    fillSegments wildcard c segments = segments := by
  induction segments with
  | nil => rfl
  | cons segment rest ih =>
      rw [List.mem_cons, not_or] at fixed
      rw [fillSegments_fixed (Ne.symm fixed.1), ih fixed.2]

theorem segmentsFit_fill (segments : List (List α)) :
    SegmentsFit wildcard segments (fillSegments wildcard c segments) := by
  induction segments with
  | nil => exact .nil
  | cons segment rest ih =>
      by_cases free : segment = wildcard
      · subst free
        rw [fillSegments_free]
        exact .cons (.inl rfl) ih
      · rw [fillSegments_fixed free]
        exact .cons (.inr rfl) ih

/-- Whatever fits a fill and does not use its symbol fits what was filled. -/
theorem SegmentsFit.of_fill (unused : ∀ segment ∈ granted, c ∉ segment)
    (fits : SegmentsFit wildcard granted (fillSegments wildcard c required)) :
    SegmentsFit wildcard granted required := by
  induction required generalizing granted with
  | nil => exact fits
  | cons segment required ih =>
      by_cases free : segment = wildcard
      · subst free
        rw [fillSegments_free] at fits
        cases fits with
        | cons head rest =>
            refine .cons ?_ (ih (fun s mem => unused s (List.mem_cons_of_mem _ mem)) rest)
            rcases head with wild | same
            · exact .inl wild
            · exact absurd (same ▸ List.mem_singleton_self c) (unused _ List.mem_cons_self)
      · rw [fillSegments_fixed free] at fits
        cases fits with
        | cons head rest =>
            exact .cons head (ih (fun s mem => unused s (List.mem_cons_of_mem _ mem)) rest)

/-- What a fill starts with, short of its symbol, is fixed. -/
theorem prefix_fixedPrefix {stem : List α} (segments : List (List α)) (unused : c ∉ stem)
    (starts : stem <+: [sep].intercalate (fillSegments wildcard c segments)) :
    stem <+: fixedPrefix sep wildcard segments := by
  induction segments generalizing stem with
  | nil => exact starts
  | cons segment rest ih =>
      by_cases free : segment = wildcard
      · subst free
        rw [fillSegments_free, List.intercalate_cons_cons_left] at starts
        cases stem with
        | nil => exact List.nil_prefix
        | cons a stem =>
            rw [List.cons_prefix_cons] at starts
            exact absurd (starts.1 ▸ List.mem_cons_self) unused
      · rw [fillSegments_fixed free] at starts
        cases rest with
        | nil => simpa [fillSegments, fixedPrefix, free] using starts
        | cons next rest =>
            have filled : fillSegments wildcard c (next :: rest) =
                (if next = wildcard then [c] else next) :: fillSegments wildcard c rest := rfl
            rw [filled, intercalate_cons_cons_eq, ← filled] at starts
            rw [fixedPrefix_cons_cons free]
            obtain ⟨tail, whole⟩ := starts
            rcases List.append_eq_append_iff.mp whole with ⟨more, rfl, -⟩ | ⟨more, rfl, beyond⟩
            · exact (List.prefix_append stem more).trans (List.prefix_append ..)
            · refine (List.prefix_append_right_inj segment).mpr ?_
              cases more with
              | nil => exact List.nil_prefix
              | cons a more =>
                  rw [List.cons_append, List.cons.injEq] at beyond
                  obtain ⟨rfl, beyond⟩ := beyond
                  refine (List.prefix_cons_inj sep).mpr (ih ?_ ⟨tail, beyond.symm⟩)
                  intro mem
                  exact unused (List.mem_append_right segment (List.mem_cons_of_mem _ mem))

end AgqlAuth.Pattern
