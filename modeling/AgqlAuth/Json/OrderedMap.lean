import Mathlib.Data.String.Basic
import Mathlib.Data.List.Sort
import Mathlib.Order.Basic

/-!
# Ordered maps

A map as the list of its entries in strictly increasing key order, the order in
which a B-tree map is walked.
-/

namespace AgqlAuth.Json

variable {κ V : Type} [LinearOrder κ]

/-- The keys strictly increase. -/
def Ascending (entries : List (κ × V)) : Prop := (entries.map Prod.fst).Pairwise (· < ·)

/-- Set `key` to `value`, keeping the order. -/
def insertEntry (key : κ) (value : V) : List (κ × V) → List (κ × V)
  | [] => [(key, value)]
  | (other, known) :: rest =>
      if key < other then (key, value) :: (other, known) :: rest
      else if key = other then (key, value) :: rest
      else (other, known) :: insertEntry key value rest

theorem mem_keys_insertEntry {key other : κ} {value : V} {entries : List (κ × V)} :
    other ∈ (insertEntry key value entries).map Prod.fst ↔
      other = key ∨ other ∈ entries.map Prod.fst := by
  induction entries with
  | nil => simp [insertEntry]
  | cons entry rest ih =>
      obtain ⟨first, known⟩ := entry
      unfold insertEntry
      split
      case isTrue => simp
      case isFalse =>
        split
        case isTrue same =>
          subst same
          simp
        case isFalse =>
          rw [List.map_cons, List.mem_cons, ih, List.map_cons, List.mem_cons]
          exact or_left_comm

theorem ascending_insertEntry {key : κ} {value : V} {entries : List (κ × V)}
    (ascending : Ascending entries) : Ascending (insertEntry key value entries) := by
  unfold Ascending at ascending ⊢
  induction entries with
  | nil => simp [insertEntry]
  | cons entry rest ih =>
      obtain ⟨first, known⟩ := entry
      rw [List.map_cons, List.pairwise_cons] at ascending
      obtain ⟨least, ordered⟩ := ascending
      unfold insertEntry
      split
      case isTrue before =>
        simp only [List.map_cons, List.pairwise_cons, List.mem_cons]
        refine ⟨?_, least, ordered⟩
        rintro other (rfl | mem)
        · exact before
        · exact before.trans (least other mem)
      case isFalse notBefore =>
        split
        case isTrue same =>
          subst same
          rw [List.map_cons, List.pairwise_cons]
          exact ⟨least, ordered⟩
        case isFalse different =>
          rw [List.map_cons, List.pairwise_cons]
          refine ⟨?_, ih ordered⟩
          intro other mem
          rcases mem_keys_insertEntry.mp mem with rfl | mem
          · exact lt_of_le_of_ne (not_lt.mp notBefore) (Ne.symm different)
          · exact least other mem

/-- A key above all others is added at the end. -/
theorem insertEntry_last {key : κ} {value : V} {entries : List (κ × V)}
    (above : ∀ other ∈ entries.map Prod.fst, other < key) :
    insertEntry key value entries = entries ++ [(key, value)] := by
  induction entries with
  | nil => rfl
  | cons entry rest ih =>
      obtain ⟨first, known⟩ := entry
      have below : first < key := above first (by simp)
      have tail := ih fun other mem => above other (List.mem_cons_of_mem _ mem)
      rw [insertEntry, if_neg (not_lt_of_gt below), if_neg (ne_of_gt below), tail, List.cons_append]

/-- The map that inserting the entries one after another gives; later ones win. -/
def collectEntries (entries : List (κ × V)) : List (κ × V) :=
  entries.foldl (fun collected entry => insertEntry entry.1 entry.2 collected) []

theorem collectEntries_of_ascending {entries : List (κ × V)} (ascending : Ascending entries) :
    collectEntries entries = entries := by
  have appended : ∀ collected rest : List (κ × V), Ascending (collected ++ rest) →
      rest.foldl (fun collected entry => insertEntry entry.1 entry.2 collected) collected =
        collected ++ rest := by
    intro collected rest
    induction rest generalizing collected with
    | nil => simp
    | cons entry rest ih =>
        intro ordered
        have last : insertEntry entry.1 entry.2 collected = collected ++ [entry] := by
          refine insertEntry_last fun other mem => ?_
          rw [Ascending, List.map_append, List.pairwise_append] at ordered
          exact ordered.2.2 other mem entry.1 (by simp)
        rw [List.foldl_cons, last, ih (collected ++ [entry]), List.append_assoc,
          List.singleton_append]
        rwa [List.append_assoc, List.singleton_append]
  exact appended [] entries ascending

/-- A map keeps its keys in order. -/
structure OrderedMap (κ V : Type) [LinearOrder κ] where
  entries : List (κ × V) := []
  ascending : Ascending entries := by exact List.Pairwise.nil

def OrderedMap.empty : OrderedMap κ V where
  entries := []
  ascending := List.Pairwise.nil

def OrderedMap.insert (self : OrderedMap κ V) (key : κ) (value : V) : OrderedMap κ V where
  entries := insertEntry key value self.entries
  ascending := ascending_insertEntry self.ascending

def OrderedMap.find? (self : OrderedMap κ V) (key : κ) : Option V :=
  (self.entries.find? fun entry => entry.1 = key).map Prod.snd

def OrderedMap.keys (self : OrderedMap κ V) : List κ := self.entries.map Prod.fst

def OrderedMap.contains (self : OrderedMap κ V) (key : κ) : Bool := decide (key ∈ self.keys)

theorem find?_insertEntry {key other : κ} {value : V} {entries : List (κ × V)} :
    ((insertEntry key value entries).find? fun entry => entry.1 = other).map Prod.snd =
      if other = key then some value
      else (entries.find? fun entry => entry.1 = other).map Prod.snd := by
  induction entries with
  | nil =>
      by_cases same : key = other
      · simp [insertEntry, same]
      · simp [insertEntry, same, Ne.symm same]
  | cons entry rest ih =>
      obtain ⟨first, known⟩ := entry
      unfold insertEntry
      split
      case isTrue before =>
        by_cases same : key = other
        · simp [same]
        · simp [same, Ne.symm same]
      case isFalse =>
        split
        case isTrue here =>
          subst here
          by_cases same : key = other
          · simp [same]
          · simp [same, Ne.symm same]
        case isFalse different =>
          by_cases found : first = other
          · subst found
            simp [Ne.symm different]
          · simpa [found] using ih

theorem mem_keys_foldl_insertEntry {key : κ} (entries : List (κ × V)) : ∀ collected : List (κ × V),
    key ∈ (entries.foldl (fun collected entry => insertEntry entry.1 entry.2 collected)
      collected).map Prod.fst ↔ key ∈ collected.map Prod.fst ∨ key ∈ entries.map Prod.fst := by
  induction entries with
  | nil => simp
  | cons entry rest ih =>
      intro collected
      rw [List.foldl_cons, ih, mem_keys_insertEntry, List.map_cons, List.mem_cons, or_assoc,
        or_left_comm]

theorem ascending_collectEntries (entries : List (κ × V)) : Ascending (collectEntries entries) := by
  have kept : ∀ collected, Ascending collected → Ascending
      (entries.foldl (fun collected entry => insertEntry entry.1 entry.2 collected) collected) := by
    induction entries with
    | nil => exact fun _ ascending => ascending
    | cons entry rest ih => exact fun collected ascending => ih _ (ascending_insertEntry ascending)
  exact kept [] List.Pairwise.nil

/-- Of the entries with one key the last is found. -/
theorem find?_foldl_insertEntry {key : κ} (entries : List (κ × V)) : ∀ collected : List (κ × V),
    ((entries.foldl (fun collected entry => insertEntry entry.1 entry.2 collected)
        collected).find? fun entry => entry.1 = key).map Prod.snd =
      ((entries.reverse.find? fun entry => entry.1 = key).map Prod.snd).or
        ((collected.find? fun entry => entry.1 = key).map Prod.snd) := by
  induction entries with
  | nil => simp
  | cons entry rest ih =>
      intro collected
      rw [List.foldl_cons, ih, find?_insertEntry, List.reverse_cons, List.find?_append]
      by_cases here : key = entry.1
      · subst here
        cases rest.reverse.find? (fun other => other.1 = entry.1) <;> simp
      · cases rest.reverse.find? (fun other => other.1 = key) <;> simp [here, Ne.symm here]

theorem find?_of_distinct {key : κ} {value : V} {entries : List (κ × V)}
    (distinct : (entries.map Prod.fst).Nodup) :
    (entries.find? fun entry => entry.1 = key).map Prod.snd = some value ↔
      (key, value) ∈ entries := by
  induction entries with
  | nil => simp
  | cons entry rest ih =>
      obtain ⟨first, known⟩ := entry
      obtain ⟨absent, distinct⟩ := List.nodup_cons.mp distinct
      by_cases here : first = key
      · subst here
        have elsewhere : (first, value) ∉ rest :=
          fun mem => absent (List.mem_map.mpr ⟨(first, value), mem, rfl⟩)
        simp [elsewhere, eq_comm]
      · rw [List.find?_cons_of_neg (by simpa using here), ih distinct]
        simp [Ne.symm here]

/-- With no key repeated, the collected map holds exactly the given entries. -/
theorem find?_collectEntries {key : κ} {value : V} {entries : List (κ × V)}
    (distinct : (entries.map Prod.fst).Nodup) :
    ((collectEntries entries).find? fun entry => entry.1 = key).map Prod.snd = some value ↔
      (key, value) ∈ entries := by
  have reversed : (entries.reverse.map Prod.fst).Nodup := by
    rw [List.map_reverse]
    exact List.nodup_reverse.mpr distinct
  rw [collectEntries, find?_foldl_insertEntry, List.find?_nil, Option.map_none, Option.or_none,
    find?_of_distinct reversed, List.mem_reverse]

def OrderedMap.collect (entries : List (κ × V)) : OrderedMap κ V where
  entries := collectEntries entries
  ascending := ascending_collectEntries entries

namespace OrderedMap

theorem mem_keys_insert {self : OrderedMap κ V} {key other : κ} {value : V} :
    other ∈ (self.insert key value).keys ↔ other = key ∨ other ∈ self.keys :=
  mem_keys_insertEntry

theorem mem_keys_collect {key : κ} {entries : List (κ × V)} :
    key ∈ (collect entries).keys ↔ key ∈ entries.map Prod.fst :=
  (mem_keys_foldl_insertEntry entries []).trans (or_iff_right List.not_mem_nil)

/-- The keys in order are determined by which keys there are. -/
theorem keys_eq_iff {a b : OrderedMap κ V} :
    a.keys = b.keys ↔ ∀ key, key ∈ a.keys ↔ key ∈ b.keys := by
  refine ⟨fun same key => by rw [same], fun same => ?_⟩
  apply List.Perm.eq_of_pairwise' a.ascending b.ascending
  exact (List.perm_ext_iff_of_nodup (a.ascending.imp ne_of_lt) (b.ascending.imp ne_of_lt)).mpr same

theorem find?_collect {key : κ} {value : V} {entries : List (κ × V)}
    (distinct : (entries.map Prod.fst).Nodup) :
    (collect entries).find? key = some value ↔ (key, value) ∈ entries :=
  find?_collectEntries distinct

end OrderedMap

/-- A set is a map whose values say nothing. -/
abbrev OrderedSet (κ : Type) [LinearOrder κ] := OrderedMap κ Unit

def OrderedSet.collect (elements : List κ) : OrderedSet κ :=
  OrderedMap.collect (elements.map fun element => (element, ()))

theorem OrderedSet.mem_keys_collect {element : κ} {elements : List κ} :
    element ∈ (OrderedSet.collect elements).keys ↔ element ∈ elements := by
  rw [OrderedSet.collect, OrderedMap.mem_keys_collect, List.map_map]
  simp

end AgqlAuth.Json
