import AgqlAuth.Json.Codec

/-!
# Records as JSON objects

A record is written as an object with one slot for each field, an absent slot
being left out, followed by the entries of a flattened map.  It is read back
field by field; a field that occurs twice is refused, and what no field names is
left to the flattened map.
-/

namespace AgqlAuth.Json

abbrev Entries := List (String × JsonValue)

/-- The fields of a record in order; `none` is a field that is not written. -/
abbrev Slots := List (String × Option JsonValue)

/-- A field that is left out when `skipped`. -/
def writtenUnless (skipped : Bool) (value : JsonValue) : Option JsonValue :=
  if skipped then none else some value

namespace Slots

def names (slots : Slots) : List String := slots.map Prod.fst

/-- The entries of the written fields. -/
def present (slots : Slots) : Entries :=
  slots.filterMap fun slot => slot.2.map (slot.1, ·)

end Slots

/-- The values an object gives `name`. -/
def occurrences (name : String) (entries : Entries) : List JsonValue :=
  entries.filterMap fun entry => if entry.1 = name then some entry.2 else none

@[simp]
theorem occurrences_append (name : String) (first second : Entries) :
    occurrences name (first ++ second) = occurrences name first ++ occurrences name second := by
  simp [occurrences]

theorem occurrences_eq_nil {name : String} {entries : Entries}
    (absent : name ∉ entries.map Prod.fst) : occurrences name entries = [] := by
  simp only [occurrences, List.filterMap_eq_nil_iff]
  intro entry mem
  have other : entry.1 ≠ name := by
    rintro rfl
    exact absent (List.mem_map_of_mem mem)
  rw [if_neg other]

theorem mem_names_of_mem_present {name : String} {slots : Slots}
    (mem : name ∈ slots.present.map Prod.fst) : name ∈ slots.names := by
  obtain ⟨entry, written, rfl⟩ := List.mem_map.mp mem
  obtain ⟨slot, slot_mem, filled⟩ := List.mem_filterMap.mp written
  obtain ⟨value, -, rfl⟩ := Option.map_eq_some_iff.mp filled
  exact List.mem_map_of_mem slot_mem

/-- A field occurs as often as its slot is filled. -/
theorem occurrences_present {slots : Slots} {name : String} {slot : Option JsonValue}
    (distinct : slots.names.Nodup) (mem : (name, slot) ∈ slots) :
    occurrences name slots.present = slot.toList := by
  induction slots with
  | nil => cases mem
  | cons head rest ih =>
      obtain ⟨unlisted, distinct⟩ := List.nodup_cons.mp distinct
      have split : Slots.present (head :: rest) =
          (head.2.map (head.1, ·)).toList ++ Slots.present rest := by
        cases filled : head.2 with
        | none => simp [Slots.present, filled]
        | some value => simp [Slots.present, filled]
      rw [split, occurrences_append]
      rcases List.mem_cons.mp mem with rfl | mem
      · have absent : occurrences name (Slots.present rest) = [] :=
          occurrences_eq_nil fun listed => unlisted (mem_names_of_mem_present listed)
        rw [absent, List.append_nil]
        cases slot with
        | none => rfl
        | some value => simp [occurrences]
      · have other : head.1 ≠ name := by
          rintro rfl
          exact unlisted (List.mem_map.mpr ⟨_, mem, rfl⟩)
        rw [ih distinct mem]
        cases head.2 with
        | none => rfl
        | some value => simp [occurrences, other]

/-- The entries of an object, the only form a record with a flattened map is read from. -/
def entriesOf : JsonValue → Option Entries
  | .object entries => some entries
  | _ => none

/--
The fields of any other record, which may also be an array of them in order; all
but the first `needed` have defaults.
-/
def fieldsOf (fields : List String) (needed : Nat) : JsonValue → Option Entries
  | .object entries => some entries
  | .array values =>
      if needed ≤ values.length ∧ values.length ≤ fields.length then some (fields.zip values)
      else none
  | _ => none

/-- What no field names. -/
def unnamed (names : List String) (entries : Entries) : Entries :=
  entries.filter fun entry => entry.1 ∉ names

section Fields

variable {α : Type}

/-- A field that must be there. -/
def required (codec : Codec α) (entries : Entries) (name : String) : Option α :=
  match occurrences name entries with
  | [value] => codec.read value
  | _ => none

/-- An `Option` field: left out or `null` when it has no value. -/
def optional (codec : Codec α) (entries : Entries) (name : String) : Option (Option α) :=
  match occurrences name entries with
  | [] => some none
  | [.null] => some none
  | [value] => (codec.read value).map some
  | _ => none

/-- A field that falls back to `fallback` when it is left out. -/
def defaulted (codec : Codec α) (fallback : α) (entries : Entries) (name : String) : Option α :=
  match occurrences name entries with
  | [] => some fallback
  | [value] => codec.read value
  | _ => none

end Fields

/-- The entries were written from these slots, next to a flattened map. -/
structure WrittenFrom (slots : Slots) (extra entries : Entries) : Prop where
  distinct : slots.names.Nodup
  apart : ∀ entry ∈ extra, entry.1 ∉ slots.names
  entries_eq : entries = slots.present ++ extra

namespace WrittenFrom

variable {α : Type} {slots : Slots} {extra entries : Entries}

theorem occurrences_eq (written : WrittenFrom slots extra entries) {name : String}
    {slot : Option JsonValue} (mem : (name, slot) ∈ slots) :
    occurrences name entries = slot.toList := by
  have absent : occurrences name extra = [] := by
    refine occurrences_eq_nil fun listed => ?_
    obtain ⟨entry, entry_mem, rfl⟩ := List.mem_map.mp listed
    exact written.apart entry entry_mem (List.mem_map_of_mem mem)
  rw [written.entries_eq, occurrences_append, absent, List.append_nil,
    occurrences_present written.distinct mem]

theorem required_eq (written : WrittenFrom slots extra entries) (codec : Codec α) {name : String}
    {value : α} (i : Nat)
    (slot : slots[i]? = some (name, some (codec.write value))) (fits : codec.Fits value) :
    required codec entries name = some value := by
  rw [required, written.occurrences_eq (List.mem_of_getElem? slot)]
  exact codec.read_write fits

theorem defaulted_eq (written : WrittenFrom slots extra entries) (codec : Codec α)
    {fallback value : α} {name : String} (i : Nat)
    (slot : slots[i]? = some (name, some (codec.write value))) (fits : codec.Fits value) :
    defaulted codec fallback entries name = some value := by
  rw [defaulted, written.occurrences_eq (List.mem_of_getElem? slot)]
  exact codec.read_write fits

/-- A field that is left out when it has its default. -/
theorem skippable_eq (written : WrittenFrom slots extra entries) (codec : Codec α)
    {fallback value : α} {name : String} {skipped : Bool} (i : Nat)
    (slot : slots[i]? = some (name, writtenUnless skipped (codec.write value)))
    (fits : codec.Fits value)
    (fallback_eq : skipped = true → value = fallback) :
    defaulted codec fallback entries name = some value := by
  rw [defaulted, written.occurrences_eq (List.mem_of_getElem? slot)]
  cases skipped with
  | false => exact codec.read_write fits
  | true => exact congrArg some (fallback_eq rfl).symm

theorem optional_eq (written : WrittenFrom slots extra entries) (codec : Codec α) {name : String}
    {value : Option α} (i : Nat) (slot : slots[i]? = some (name, value.map codec.write))
    (fits : ∀ known ∈ value, codec.Fits known) :
    optional codec entries name = some value := by
  rw [optional, written.occurrences_eq (List.mem_of_getElem? slot)]
  cases value with
  | none => rfl
  | some known =>
      have filled := codec.write_ne_null known
      have read := codec.read_write (fits known rfl)
      simp only [Option.map_some, Option.toList_some]
      rw [read, Option.map_some]

/-- An `Option` field that is written as `null` when it has no value. -/
theorem nullable_eq (written : WrittenFrom slots extra entries) (codec : Codec α) {name : String}
    {value : Option α} (i : Nat)
    (slot : slots[i]? = some (name, some ((value.map codec.write).getD .null)))
    (fits : ∀ known ∈ value, codec.Fits known) :
    optional codec entries name = some value := by
  rw [optional, written.occurrences_eq (List.mem_of_getElem? slot)]
  cases value with
  | none => rfl
  | some known =>
      have filled := codec.write_ne_null known
      have read := codec.read_write (fits known rfl)
      simp only [Option.map_some, Option.getD_some, Option.toList_some]
      rw [read, Option.map_some]

theorem unnamed_eq (written : WrittenFrom slots extra entries) :
    unnamed slots.names entries = extra := by
  have dropped : slots.present.filter (fun entry => entry.1 ∉ slots.names) = [] := by
    simp only [List.filter_eq_nil_iff, decide_not, Bool.not_eq_true, Bool.not_eq_false',
      decide_eq_true_eq]
    intro entry mem
    exact mem_names_of_mem_present (List.mem_map_of_mem mem)
  have kept : extra.filter (fun entry => entry.1 ∉ slots.names) = extra := by
    simpa using written.apart
  rw [unnamed, written.entries_eq, List.filter_append, dropped, kept, List.nil_append]

/-- A record that has no flattened map. -/
theorem alone {names : List String} (names_eq : slots.names = names) (distinct : names.Nodup) :
    WrittenFrom slots [] slots.present where
  distinct := names_eq ▸ distinct
  apart := by simp
  entries_eq := (List.append_nil _).symm

end WrittenFrom

/-- The codec of a record that has no flattened map. -/
def record {α : Type} (fields : List String) (needed : Nat) (slots : α → Slots)
    (readFields : Entries → Option α) (Fits : α → Prop)
    (read_present : ∀ {value}, Fits value → readFields (slots value).present = some value) :
    Codec α where
  write value := .object (slots value).present
  read value := (fieldsOf fields needed value).bind readFields
  Fits
  read_write := read_present
  write_ne_null _ := nofun

end AgqlAuth.Json
