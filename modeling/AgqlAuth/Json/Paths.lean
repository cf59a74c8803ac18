import AgqlAuth.Base.Text
import AgqlAuth.Json.Codec

/-!
# Reading and changing JSON values along paths

What a path of object keys observes of a value, and updates that change a value
in place without adding, removing or reordering entries.
-/

namespace AgqlAuth.JsonValue

/-- `serde_json::Value::get` with a string index. -/
def get (key : String) : JsonValue → Option JsonValue
  | .object entries => entries.lookup key
  | _ => none

/-- What is seen at the end of a path: the keys of an object, or the whole of anything else. -/
inductive View where
  | keys (names : List String)
  | leaf (value : JsonValue)

def view : JsonValue → View
  | .object entries => .keys (entries.map Prod.fst)
  | value => .leaf value

def observe : List String → JsonValue → Option View
  | [], value => some value.view
  | key :: path, value => (value.get key).bind (observe path)

/-- Change the first entry under `key`, if there is one. -/
def modifyEntry (key : String) (change : JsonValue → JsonValue) :
    List (String × JsonValue) → List (String × JsonValue)
  | [] => []
  | (other, value) :: rest =>
      if other = key then (other, change value) :: rest
      else (other, value) :: modifyEntry key change rest

/-- `get_mut` followed by an assignment. -/
def modify (key : String) (change : JsonValue → JsonValue) : JsonValue → JsonValue
  | .object entries => .object (modifyEntry key change entries)
  | value => value

/-- An assignment to each of `values_mut`. -/
def modifyAll (change : JsonValue → JsonValue) : JsonValue → JsonValue
  | .object entries => .object (entries.map fun entry => (entry.1, change entry.2))
  | value => value

/-- `str::replace` of a two-character escape. -/
def replaceEscape (escape replacement : Char) : List Char → List Char
  | '~' :: c :: rest =>
      if c = escape then replacement :: replaceEscape escape replacement rest
      else '~' :: replaceEscape escape replacement (c :: rest)
  | c :: rest => c :: replaceEscape escape replacement rest
  | [] => []

def unescapeToken (token : String) : String :=
  .ofList (replaceEscape '0' '~' (replaceEscape '1' '/' token.toList))

/-- An array index: decimal digits of a `usize` without a leading zero. -/
def parseIndex (token : String) : Option Nat :=
  let n := token.toList.foldl (fun n c => 10 * n + (c.toNat - 48)) 0
  if token.isEmpty || !token.toList.all Char.isDigit then none
  else if token.toList.head? = some '0' ∧ token.toList.length ≠ 1 then none
  else if n < 2 ^ 64 then some n
  else none

/-- One token of a pointer. -/
def descend (value : JsonValue) (token : String) : Option JsonValue :=
  match value with
  | .object entries => entries.lookup token
  | .array values => (parseIndex token).bind (values[·]?)
  | _ => none

/-- `serde_json::Value::pointer`. -/
def pointer (path : String) (value : JsonValue) : Option JsonValue :=
  if path.isEmpty then some value
  else if path.toList.head? ≠ some '/' then none
  else ((splitAtChar path '/').drop 1).foldlM (fun target token =>
    target.descend (unescapeToken token)) value

section Entries

variable {key other : String} {change : JsonValue → JsonValue}
variable {entries : List (String × JsonValue)}

theorem keys_modifyEntry :
    (modifyEntry key change entries).map Prod.fst = entries.map Prod.fst := by
  induction entries with
  | nil => rfl
  | cons entry rest ih =>
      unfold modifyEntry
      split
      · rfl
      · rw [List.map_cons, ih, List.map_cons]

theorem lookup_modifyEntry_self :
    (modifyEntry key change entries).lookup key = (entries.lookup key).map change := by
  induction entries with
  | nil => rfl
  | cons entry rest ih =>
      obtain ⟨first, value⟩ := entry
      unfold modifyEntry
      split
      case isTrue same =>
        subst same
        rw [List.lookup_cons_self, List.lookup_cons_self, Option.map_some]
      case isFalse different =>
        have unequal : (key == first) = false := by simpa using Ne.symm different
        rw [List.lookup_cons, List.lookup_cons, unequal]
        exact ih

theorem lookup_modifyEntry_ne (ne : other ≠ key) :
    (modifyEntry key change entries).lookup other = entries.lookup other := by
  induction entries with
  | nil => rfl
  | cons entry rest ih =>
      obtain ⟨first, value⟩ := entry
      unfold modifyEntry
      split
      case isTrue same =>
        subst same
        have unequal : (other == first) = false := by simpa using ne
        rw [List.lookup_cons, List.lookup_cons, unequal]
      case isFalse different => rw [List.lookup_cons, List.lookup_cons, ih]

theorem lookup_map_change :
    (entries.map fun entry => (entry.1, change entry.2)).lookup key =
      (entries.lookup key).map change := by
  induction entries with
  | nil => rfl
  | cons entry rest ih =>
      rw [List.map_cons, List.lookup_cons, List.lookup_cons, ih]
      cases key == entry.1 <;> rfl

end Entries

section Observing

variable {key other : String} {change : JsonValue → JsonValue} {value : JsonValue}
variable {path : List String}

theorem get_modify_self : (value.modify key change).get key = (value.get key).map change := by
  cases value with
  | object entries => exact lookup_modifyEntry_self
  | _ => rfl

theorem get_modify_ne (ne : other ≠ key) :
    (value.modify key change).get other = value.get other := by
  cases value with
  | object entries => exact lookup_modifyEntry_ne ne
  | _ => rfl

theorem get_modifyAll : (value.modifyAll change).get key = (value.get key).map change := by
  cases value with
  | object entries => exact lookup_map_change
  | _ => rfl

theorem view_modify : (value.modify key change).view = value.view := by
  cases value with
  | object entries => exact congrArg View.keys keys_modifyEntry
  | _ => rfl

theorem view_modifyAll : (value.modifyAll change).view = value.view := by
  cases value with
  | object entries => simp [modifyAll, view, Function.comp_def]
  | _ => rfl

theorem observe_map {rest : List String}
    (kept : ∀ value, observe rest (change value) = observe rest value)
    (found : Option JsonValue) :
    (found.map change).bind (observe rest) = found.bind (observe rest) := by
  cases found with
  | none => rfl
  | some value => exact kept value

/-- A change under `key` is seen only along paths through `key` that see the change itself. -/
theorem observe_modify
    (kept : ∀ rest, path = key :: rest →
      ∀ value, observe rest (change value) = observe rest value) :
    observe path (value.modify key change) = observe path value := by
  cases path with
  | nil => exact congrArg some view_modify
  | cons first rest =>
      by_cases same : first = key
      · subst same
        rw [observe, observe, get_modify_self]
        exact observe_map (kept rest rfl) _
      · rw [observe, observe, get_modify_ne same]

theorem observe_modifyAll
    (kept : ∀ key rest, path = key :: rest →
      ∀ value, observe rest (change value) = observe rest value) :
    observe path (value.modifyAll change) = observe path value := by
  cases path with
  | nil => exact congrArg some view_modifyAll
  | cons first rest =>
      rw [observe, observe, get_modifyAll]
      exact observe_map (kept first rest rfl) _

end Observing

end AgqlAuth.JsonValue
