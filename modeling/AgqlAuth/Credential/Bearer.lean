import AgqlAuth.Model.Session

/-!
# Bearer credentials

What `Authorization` headers the service reads a token from, and which token.
-/

namespace AgqlAuth

/-- `str::split_once(char::is_whitespace)`. -/
def splitOnceWhitespace (s : String) : Option (String × String) :=
  match s.toList.dropWhile (!isWhitespace ·) with
  | [] => none
  | _ :: rest => some (.ofList (s.toList.takeWhile (!isWhitespace ·)), .ofList rest)

/-- `str::split_whitespace`. -/
def splitWhitespace (s : String) : List String :=
  ((s.toList.splitOnP isWhitespace).filter (!List.isEmpty ·)).map .ofList

inductive BearerParseMode where
  | bearerOrRaw
  | requireBearer
  deriving DecidableEq

def stripBearerPrefixWithMode (input : String) (mode : BearerParseMode) : AuthResult String :=
  let trimmed := trim input
  if trimmed.isEmpty then .error .invalidBearerToken
  else if eqIgnoreAsciiCase trimmed "Bearer" then .error .invalidBearerToken
  else
    match splitOnceWhitespace trimmed with
    | none =>
        match mode with
        | .bearerOrRaw => .ok trimmed
        | .requireBearer => .error .invalidBearerToken
    | some (scheme, rest) =>
        if !eqIgnoreAsciiCase scheme "Bearer" then .error .invalidBearerToken
        else
          let token := trim rest
          if token.isEmpty || (splitWhitespace token).length != 1 then .error .invalidBearerToken
          else .ok token

def stripBearerPrefix (input : String) : AuthResult String :=
  stripBearerPrefixWithMode input .bearerOrRaw

/-- A non-empty text without white space. -/
structure Word (s : String) : Prop where
  nonempty : s ≠ ""
  solid : ∀ c ∈ s.toList, isWhitespace c = false

/-- Nothing but white space. -/
def Blank (s : String) : Prop := ∀ c ∈ s.toList, isWhitespace c = true

instance (s : String) : Decidable (Blank s) :=
  decidable_of_iff (s.toList.all isWhitespace = true) List.all_eq_true

/-- White space around a text whose ends are solid is trimmed. -/
theorem trim_surrounded {input left middle right : String} {first last : Char}
    {chars chars' : List Char} (whole : input = left ++ middle ++ right) (before : Blank left)
    (after : Blank right) (starts : middle.toList = first :: chars)
    (ends : middle.toList = chars' ++ [last]) (solid_first : isWhitespace first = false)
    (solid_last : isWhitespace last = false) : trim input = middle := by
  have front : (input.toList).dropWhile isWhitespace = middle.toList ++ right.toList := by
    rw [whole, String.toList_append, String.toList_append, List.append_assoc,
      List.dropWhile_append_of_pos before, starts, List.cons_append]
    simp [solid_first]
  have back : (middle.toList ++ right.toList).reverse.dropWhile isWhitespace =
      middle.toList.reverse := by
    have blank : ∀ c ∈ right.toList.reverse, isWhitespace c = true :=
      fun c mem => after c (List.mem_reverse.mp mem)
    rw [List.reverse_append, List.dropWhile_append_of_pos blank, ends, List.reverse_append]
    simp [solid_last]
  rw [trim, front, back, List.reverse_reverse, String.ofList_toList]

theorem Word.ends {s : String} (word : Word s) : ∃ chars last, s.toList = chars ++ [last] ∧
    isWhitespace last = false := by
  have present : s.toList ≠ [] := fun empty => word.nonempty (String.toList_eq_nil_iff.mp empty)
  refine ⟨s.toList.dropLast, s.toList.getLast present, ?_, ?_⟩
  · exact (List.dropLast_append_getLast present).symm
  · exact word.solid _ (List.getLast_mem present)

theorem Word.starts {s : String} (word : Word s) : ∃ first chars, s.toList = first :: chars ∧
    isWhitespace first = false := by
  cases present : s.toList with
  | nil => exact absurd (String.toList_eq_nil_iff.mp present) word.nonempty
  | cons first chars => exact ⟨first, chars, rfl, word.solid first (by simp [present])⟩

theorem Word.trim_surrounded {input left token right : String} (word : Word token)
    (whole : input = left ++ token ++ right) (before : Blank left) (after : Blank right) :
    trim input = token := by
  obtain ⟨first, chars, starts, solid_first⟩ := word.starts
  obtain ⟨chars', last, ends, solid_last⟩ := word.ends
  exact AgqlAuth.trim_surrounded whole before after starts ends solid_first solid_last

theorem Word.trim_eq {s : String} (word : Word s) : trim s = s := by
  have empty : Blank "" := by simp [Blank]
  exact word.trim_surrounded (by simp) empty empty

/-- A text that trimming leaves starts with a solid character. -/
theorem starts_of_trim {s : String} (trimmed : trim s = s) {c : Char} {rest : List Char}
    (starts : s.toList = c :: rest) : isWhitespace c = false := by
  by_contra blank
  have white : isWhitespace c = true := by simpa using blank
  have chars := congrArg String.toList trimmed
  rw [trim, String.toList_ofList, starts] at chars
  have shorter := congrArg List.length chars
  have kept := (List.dropWhile_suffix isWhitespace (l := rest)).length_le
  have kept' := (List.dropWhile_suffix isWhitespace
    (l := (rest.dropWhile isWhitespace).reverse)).length_le
  simp [white] at shorter kept'
  omega

/-- A text that trimming leaves ends in a solid character. -/
theorem ends_of_trim {s : String} (trimmed : trim s = s) {c : Char} {rest : List Char}
    (ends : s.toList = rest ++ [c]) : isWhitespace c = false := by
  have chars := congrArg String.toList trimmed
  rw [trim, String.toList_ofList] at chars
  have reversed := congrArg List.reverse chars
  rw [List.reverse_reverse, ends, List.reverse_append] at reversed
  exact stop_of_dropWhile _ c (by rw [reversed]; rfl)

/-- Only the front of a text that ends in a solid character is trimmed. -/
theorem trim_of_ends {s : String} (present : trim s ≠ "")
    (solid : ∀ chars c, s.toList = chars ++ [c] → isWhitespace c = false) :
    ∃ spaces, s.toList = spaces ++ (trim s).toList ∧ ∀ c ∈ spaces, isWhitespace c = true := by
  have whole := (List.takeWhile_append_dropWhile (p := isWhitespace) (l := s.toList)).symm
  refine ⟨s.toList.takeWhile isWhitespace, ?_, fun c mem => List.mem_takeWhile_imp mem⟩
  rcases List.eq_nil_or_concat (s.toList.dropWhile isWhitespace) with none | ⟨chars, last, ends⟩
  · rw [trim, none] at present
    exact absurd rfl present
  · have last_solid : isWhitespace last = false := by
      refine solid (s.toList.takeWhile isWhitespace ++ chars) last ?_
      rw [List.append_assoc, ← List.concat_eq_append, ← ends]
      exact whole
    have kept : (trim s).toList = s.toList.dropWhile isWhitespace := by
      rw [trim, String.toList_ofList, ends, List.concat_eq_append, List.reverse_append]
      simp [last_solid]
    rw [kept]
    exact whole

/-- A solid character is in one of the pieces between white space. -/
theorem exists_piece {chars : List Char} {c : Char} (mem : c ∈ chars)
    (solid : isWhitespace c = false) : ∃ piece ∈ chars.splitOnP isWhitespace, piece ≠ [] := by
  induction chars with
  | nil => cases mem
  | cons head rest ih =>
      rw [List.splitOnP_cons_eq_if_modifyHead]
      split
      case isTrue blank =>
        rcases List.mem_cons.mp mem with rfl | later
        · rw [solid] at blank
          cases blank
        · obtain ⟨piece, listed, nonempty⟩ := ih later
          exact ⟨piece, List.mem_cons_of_mem _ listed, nonempty⟩
      case isFalse =>
        cases pieces : rest.splitOnP isWhitespace with
        | nil => exact absurd pieces (List.splitOnP_ne_nil _ _)
        | cons piece others => exact ⟨head :: piece, by simp, by simp⟩

theorem filter_pieces_pos {chars : List Char} {c : Char} (mem : c ∈ chars)
    (solid : isWhitespace c = false) :
    0 < ((chars.splitOnP isWhitespace).filter (!List.isEmpty ·)).length := by
  obtain ⟨piece, listed, nonempty⟩ := exists_piece mem solid
  exact List.length_pos_of_mem (List.mem_filter.mpr ⟨listed, by simpa using nonempty⟩)

/-- A trimmed text is one word exactly when it has one piece. -/
theorem splitWhitespace_length_eq_one {s : String} (trimmed : trim s = s) (nonempty : s ≠ "") :
    (splitWhitespace s).length = 1 ↔ Word s := by
  rw [splitWhitespace, List.length_map]
  constructor
  · intro one
    refine ⟨nonempty, fun c mem => ?_⟩
    by_contra blank
    have white : isWhitespace c = true := by simpa using blank
    obtain ⟨before, after, split⟩ := List.append_of_mem mem
    have first : ∃ d ∈ before, isWhitespace d = false := by
      cases before with
      | nil =>
          rw [starts_of_trim trimmed split] at white
          cases white
      | cons d rest => exact ⟨d, by simp, starts_of_trim trimmed split⟩
    have last : ∃ d ∈ after, isWhitespace d = false := by
      rcases List.eq_nil_or_concat after with rfl | ⟨rest, d, rfl⟩
      · rw [ends_of_trim trimmed split] at white
        cases white
      · have ends : s.toList = (before ++ c :: rest) ++ [d] := by simp [split]
        exact ⟨d, by simp, ends_of_trim trimmed ends⟩
    obtain ⟨d, mem_before, solid⟩ := first
    obtain ⟨d', mem_after, solid'⟩ := last
    have pieces := filter_pieces_pos mem_before solid
    have pieces' := filter_pieces_pos mem_after solid'
    rw [split, List.splitOnP_append_cons _ _ white, List.filter_append, List.length_append] at one
    omega
  · intro word
    have present : s.toList ≠ [] := fun empty => nonempty (String.toList_eq_nil_iff.mp empty)
    rw [List.splitOnP_eq_singleton word.solid]
    simp [present]

theorem solid_of_bearer {scheme : String} (bearer : eqIgnoreAsciiCase scheme "Bearer" = true) :
    ∀ c ∈ scheme.toList, isWhitespace c = false := by
  intro c mem
  have lowered : toAsciiLowercase scheme = toAsciiLowercase "Bearer" := by
    simpa [eqIgnoreAsciiCase] using bearer
  have letters : scheme.toList.map toAsciiLowercaseChar = ['b', 'e', 'a', 'r', 'e', 'r'] := by
    have chars := congrArg String.toList lowered
    rw [toAsciiLowercase, String.toList_ofList] at chars
    rw [chars]
    decide
  have letter : toAsciiLowercaseChar c ∈ ['b', 'e', 'a', 'r', 'e', 'r'] :=
    letters ▸ List.mem_map_of_mem mem
  have solid : ∀ d ∈ ['b', 'e', 'a', 'r', 'e', 'r'], isWhitespace d = false := by
    simp [isWhitespace]
  rw [← isWhitespace_toAsciiLowercaseChar]
  exact solid _ letter

theorem ne_empty_of_bearer {scheme : String} (bearer : eqIgnoreAsciiCase scheme "Bearer" = true) :
    scheme ≠ "" := by
  rintro rfl
  revert bearer
  decide

theorem splitOnceWhitespace_eq_none {s : String} :
    splitOnceWhitespace s = none ↔ ∀ c ∈ s.toList, isWhitespace c = false := by
  unfold splitOnceWhitespace
  split
  case h_1 empty => simpa [List.dropWhile_eq_nil_iff] using empty
  case h_2 white rest split =>
    have mem : white ∈ s.toList :=
      (List.dropWhile_suffix (!isWhitespace ·)).subset (split ▸ List.mem_cons_self)
    have blank := stop_of_dropWhile (p := (!isWhitespace ·)) s.toList white (by rw [split]; rfl)
    constructor
    · intro impossible
      cases impossible
    · intro solid
      simp [solid white mem] at blank

theorem splitOnceWhitespace_append {s scheme rest : String} {white : Char}
    (whole : s.toList = scheme.toList ++ white :: rest.toList)
    (solid : ∀ c ∈ scheme.toList, isWhitespace c = false) (blank : isWhitespace white = true) :
    splitOnceWhitespace s = some (scheme, rest) := by
  obtain ⟨front, back⟩ := takeWhile_of_stop (p := (!isWhitespace ·)) scheme.toList
    (white :: rest.toList) (by simpa using solid) (by simp [blank])
  simp [splitOnceWhitespace, whole, front, back]

theorem splitOnceWhitespace_eq_some {s scheme rest : String}
    (split : splitOnceWhitespace s = some (scheme, rest)) :
    ∃ white, isWhitespace white = true ∧ s.toList = scheme.toList ++ white :: rest.toList := by
  unfold splitOnceWhitespace at split
  split at split
  case h_1 => cases split
  case h_2 white tail stopped =>
    cases split
    have blank := stop_of_dropWhile (p := (!isWhitespace ·)) s.toList white (by rw [stopped]; rfl)
    refine ⟨white, by simpa using blank, ?_⟩
    rw [String.toList_ofList, String.toList_ofList, ← stopped, List.takeWhile_append_dropWhile]

/-- The token of a header: one word alone, or one word after the scheme. -/
structure BearerCredential (input token : String) : Prop where
  word : Word token
  form : trim input = token ∧ eqIgnoreAsciiCase token "Bearer" = false ∨
    ∃ scheme gap, eqIgnoreAsciiCase scheme "Bearer" = true ∧ gap ≠ "" ∧ Blank gap ∧
      trim input = scheme ++ gap ++ token

theorem stripBearerPrefix_of_word {input token : String} (word : Word token)
    (trimmed : trim input = token) (other : eqIgnoreAsciiCase token "Bearer" = false) :
    stripBearerPrefix input = .ok token := by
  have nonempty : token.isEmpty = false := by simpa using word.nonempty
  have whole := splitOnceWhitespace_eq_none.mpr word.solid
  simp [stripBearerPrefix, stripBearerPrefixWithMode, trimmed, nonempty, other, whole]

theorem stripBearerPrefix_of_scheme {input scheme gap token : String} (word : Word token)
    (bearer : eqIgnoreAsciiCase scheme "Bearer" = true) (apart : gap ≠ "") (blank : Blank gap)
    (trimmed : trim input = scheme ++ gap ++ token) : stripBearerPrefix input = .ok token := by
  obtain ⟨white, spaces, start⟩ : ∃ white spaces, gap.toList = white :: spaces := by
    cases chars : gap.toList with
    | nil => exact absurd (String.toList_eq_nil_iff.mp chars) apart
    | cons white spaces => exact ⟨white, spaces, rfl⟩
  have first : isWhitespace white = true := blank white (by simp [start])
  have whole : (trim input).toList =
      scheme.toList ++ white :: (String.ofList spaces ++ token).toList := by
    rw [trimmed]
    simp [start]
  have split := splitOnceWhitespace_append whole (solid_of_bearer bearer) first
  have nonempty : (trim input).isEmpty = false := by
    rw [Bool.eq_false_iff]
    intro empty
    have none := congrArg String.toList (String.isEmpty_iff.mp empty)
    rw [whole] at none
    simp at none
  have other : eqIgnoreAsciiCase (trim input) "Bearer" = false := by
    rw [Bool.eq_false_iff]
    intro same
    have solid := solid_of_bearer same white (by simp [whole])
    rw [first] at solid
    cases solid
  have rest : trim (String.ofList spaces ++ token) = token := by
    have whole : String.ofList spaces ++ token = String.ofList spaces ++ token ++ "" := by simp
    refine word.trim_surrounded whole ?_ (by simp [Blank])
    intro c mem
    rw [String.toList_ofList] at mem
    exact blank c (by simp [start, mem])
  have one := (splitWhitespace_length_eq_one word.trim_eq word.nonempty).mpr word
  have present : token.isEmpty = false := by simpa using word.nonempty
  simp [stripBearerPrefix, stripBearerPrefixWithMode, nonempty, other, split, bearer, rest, one,
    present]

/-- The token is read exactly from the headers of the two forms. -/
theorem stripBearerPrefix_eq_ok {input token : String} :
    stripBearerPrefix input = .ok token ↔ BearerCredential input token := by
  constructor
  · intro stripped
    unfold stripBearerPrefix stripBearerPrefixWithMode at stripped
    simp only at stripped
    split at stripped
    · cases stripped
    split at stripped
    · cases stripped
    rename_i nonempty other
    split at stripped
    case h_1 whole =>
      cases stripped
      refine ⟨⟨by simpa using nonempty, splitOnceWhitespace_eq_none.mp whole⟩, .inl ⟨rfl, ?_⟩⟩
      simpa using other
    case h_2 scheme rest split =>
      split at stripped
      · cases stripped
      split at stripped
      · cases stripped
      cases stripped
      rename_i bearer counted
      have bearer : eqIgnoreAsciiCase scheme "Bearer" = true := by simpa using bearer
      obtain ⟨present, one⟩ : trim rest ≠ "" ∧ (splitWhitespace (trim rest)).length = 1 := by
        simpa using counted
      have word := (splitWhitespace_length_eq_one (trim_trim rest) present).mp one
      obtain ⟨white, blank, whole⟩ := splitOnceWhitespace_eq_some split
      have solid : ∀ chars c, rest.toList = chars ++ [c] → isWhitespace c = false := by
        intro chars c ends
        have whole_ends : (trim input).toList = (scheme.toList ++ white :: chars) ++ [c] := by
          simp [whole, ends]
        exact ends_of_trim (trim_trim input) whole_ends
      obtain ⟨spaces, spaced, between⟩ := trim_of_ends present solid
      refine ⟨word, .inr ⟨scheme, .ofList (white :: spaces), bearer, by simp, ?_, ?_⟩⟩
      · simpa [Blank, blank] using between
      · apply String.toList_inj.mp
        simp [whole, spaced]
  · rintro ⟨word, ⟨trimmed, other⟩ | ⟨scheme, gap, bearer, apart, blank, trimmed⟩⟩
    · exact stripBearerPrefix_of_word word trimmed other
    · exact stripBearerPrefix_of_scheme word bearer apart blank trimmed

end AgqlAuth
