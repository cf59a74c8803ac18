import AgqlAuth.Interaction.Program
import Mathlib.Data.List.Perm.Subperm
import Mathlib.Logic.Relation

/-!
# Interleaved programs over a shared state

Any number of programs run against one shared state.  A step lets one program
complete the operation it is waiting on; the operation's effect on the state is
a relation, so the state may be any implementation of a contract.  The trace of
all completed operations, newest first, is the whole scheduling history: a
program's own history is its share of the trace.
-/

namespace AgqlAuth.Interaction

open Program Relation

/-- A shared state, and what each operation may answer and do to it. -/
structure Shared (S : Signature) where
  State : Type
  init : State
  Effect : State → (op : S.Op) → S.Resp op → State → Prop

abbrev Trace (S : Signature) (ι : Type) := List (ι × Event S)

namespace Trace

variable {S : Signature} {ι : Type} [DecidableEq ι]

/-- The events of one program. -/
def of (i : ι) : Trace S ι → History S
  | [] => []
  | (j, e) :: t => if j = i then e :: of i t else of i t

@[simp]
theorem of_nil (i : ι) : of i ([] : Trace S ι) = [] := rfl

@[simp]
theorem of_cons_self (i : ι) (e : Event S) (t : Trace S ι) : of i ((i, e) :: t) = e :: of i t :=
  if_pos rfl

@[simp]
theorem of_cons_ne {i j : ι} (ne : j ≠ i) (e : Event S) (t : Trace S ι) :
    of i ((j, e) :: t) = of i t :=
  if_neg ne

theorem mem_of {i : ι} {e : Event S} {t : Trace S ι} : e ∈ of i t ↔ (i, e) ∈ t := by
  induction t with
  | nil => simp
  | cons entry t ih =>
      obtain ⟨j, e'⟩ := entry
      by_cases same : j = i
      · subst same
        simp [ih]
      · have ne : i ≠ j := fun eq => same eq.symm
        simp [same, ne, ih]

theorem of_append (i : ι) (late early : Trace S ι) :
    of i (late ++ early) = of i late ++ of i early := by
  induction late with
  | nil => rfl
  | cons entry late ih =>
      obtain ⟨j, e⟩ := entry
      by_cases same : j = i
      · subst same
        simp [ih]
      · simp [same, ih]

/-- Programs that each completed such an operation are at most as many as the operations. -/
theorem length_le_countP {t : Trace S ι} {P : Event S → Bool} {programs : List ι}
    (distinct : programs.Nodup)
    (each : ∀ i ∈ programs, ∃ e ∈ of i t, P e = true) :
    programs.length ≤ t.countP fun entry => P entry.2 := by
  rw [List.countP_eq_length_filter, ← List.length_map Prod.fst]
  refine (distinct.subperm fun i mem => ?_).length_le
  obtain ⟨e, share, holds⟩ := each i mem
  exact List.mem_map.mpr ⟨(i, e), List.mem_filter.mpr ⟨mem_of.mp share, holds⟩, rfl⟩

end Trace

section Runs

variable {S : Signature} {ι α : Type} [DecidableEq ι]

structure Config (M : Shared S) (ι : Type) where
  trace : Trace S ι
  state : M.State

/-- One program completes the operation it is waiting on. -/
inductive Step (M : Shared S) (prog : ι → Program S α) : Config M ι → Config M ι → Prop where
  | act {t : Trace S ι} {s s' : M.State} {i : ι} {op : S.Op} {next : S.Resp op → Program S α}
      {resp : S.Resp op}
      (waiting : Path (prog i) (t.of i) (call op next))
      (effect : M.Effect s op resp s') :
      Step M prog ⟨t, s⟩ ⟨(i, ⟨op, resp⟩) :: t, s'⟩

/-- Every interleaving that leads from one configuration to another. -/
abbrev Steps (M : Shared S) (prog : ι → Program S α) : Config M ι → Config M ι → Prop :=
  ReflTransGen (Step M prog)

/-- The configurations that some interleaving reaches from the start. -/
def Reachable (M : Shared S) (prog : ι → Program S α) (c : Config M ι) : Prop :=
  Steps M prog ⟨[], M.init⟩ c

/-- Program `i` has returned `value`. -/
def Returned {M : Shared S} (prog : ι → Program S α) (c : Config M ι) (i : ι) (value : α) : Prop :=
  Path (prog i) (c.trace.of i) (ret value)

/-- Program `i` has issued `op`; `early` was its history then. -/
structure Issued {M : Shared S} (prog : ι → Program S α) (c : Config M ι) (i : ι)
    (early : History S) (op : S.Op) : Prop where
  past : early <:+ c.trace.of i
  waiting : ∃ next, Path (prog i) early (call op next)

namespace Reachable

variable {M : Shared S} {prog : ι → Program S α}

theorem init : Reachable M prog ⟨[], M.init⟩ := ReflTransGen.refl

theorem step {c c' : Config M ι} (reached : Reachable M prog c) (edge : Step M prog c c') :
    Reachable M prog c' :=
  ReflTransGen.tail reached edge

theorem steps {c c' : Config M ι} (reached : Reachable M prog c) (run : Steps M prog c c') :
    Reachable M prog c' :=
  ReflTransGen.trans reached run

/-- The share of every program in a reachable trace is one of its own paths. -/
theorem path {c : Config M ι} (reached : Reachable M prog c) (i : ι) :
    ∃ rest, Path (prog i) (c.trace.of i) rest := by
  induction reached with
  | refl => exact ⟨prog i, .start⟩
  | tail _ edge ih =>
      cases edge with
      | @act t s s' j op next resp waiting effect =>
          by_cases same : j = i
          · subst same
            exact ⟨next resp, by simpa using waiting.step resp⟩
          · simpa [same] using ih

/-- A run passes through every point of its trace. -/
theorem split {c : Config M ι} (reached : Reachable M prog c) {late early : Trace S ι} {i : ι}
    {e : Event S} (share : c.trace = late ++ (i, e) :: early) :
    ∃ s s', Reachable M prog ⟨early, s⟩ ∧ Step M prog ⟨early, s⟩ ⟨(i, e) :: early, s'⟩ ∧
      M.Effect s e.op e.resp s' ∧ Steps M prog ⟨(i, e) :: early, s'⟩ c := by
  induction reached generalizing late with
  | refl =>
      have longer := congrArg List.length share
      simp at longer
  | @tail before after run edge ih =>
      cases edge with
      | @act t s s' j op next resp waiting effect =>
          cases late with
          | nil =>
              cases share
              exact ⟨s, s', run, .act waiting effect, effect, .refl⟩
          | cons entry late =>
              obtain ⟨s₀, s₀', reached₀, first, effect₀, rest⟩ := ih (List.cons.inj share).2
              exact ⟨s₀, s₀', reached₀, first, effect₀, rest.tail (.act waiting effect)⟩

/-- What the contract guarantees of single answers holds throughout the trace. -/
theorem events {P : Event S → Prop}
    (answers : ∀ {s op resp s'}, M.Effect s op resp s' → P ⟨op, resp⟩)
    {c : Config M ι} (reached : Reachable M prog c) {i : ι} {e : Event S}
    (mem : e ∈ c.trace.of i) : P e := by
  rw [Trace.mem_of] at mem
  induction reached with
  | refl => cases mem
  | tail _ edge ih =>
      cases edge with
      | act waiting effect =>
          rcases List.mem_cons.mp mem with same | mem
          · cases same
            exact answers effect
          · exact ih mem

end Reachable

section Invariants

variable {M : Shared S} {prog : ι → Program S α}
variable {guard : ι → History S → S.Op → Prop} {post : ι → History S → α → Prop}

/--
Invariant rule.  Programs are verified one by one, under arbitrary answers;
an invariant of the whole system then only has to survive single operations
whose guard is known to hold.
-/
theorem Reachable.invariant {I : Config M ι → Prop}
    (verified : ∀ i, Upholds (guard i) (post i) [] (prog i))
    (base : I ⟨[], M.init⟩)
    (preserved : ∀ {t : Trace S ι} {s s' : M.State} {i : ι} {op : S.Op} {resp : S.Resp op},
      Reachable M prog ⟨t, s⟩ → I ⟨t, s⟩ → guard i (t.of i) op → M.Effect s op resp s' →
        I ⟨(i, ⟨op, resp⟩) :: t, s'⟩)
    {c : Config M ι} (reached : Reachable M prog c) : I c := by
  induction reached with
  | refl => exact base
  | tail before edge ih =>
      cases edge with
      | act waiting effect =>
          exact preserved before ih ((verified _).guard_of_path waiting) effect

/-- An operation of the trace met its guard on the program's share of what came before. -/
theorem Reachable.guard_at (verified : ∀ i, Upholds (guard i) (post i) [] (prog i))
    {c : Config M ι} (reached : Reachable M prog c) {late early : Trace S ι} {i : ι} {e : Event S}
    (share : c.trace = late ++ (i, e) :: early) : guard i (early.of i) e.op := by
  obtain ⟨s, s', -, edge, -, -⟩ := reached.split share
  cases edge with
  | act waiting effect => exact (verified i).guard_of_path waiting

/-- Every completed operation met its guard when it was issued. -/
theorem Reachable.guard_of_mem (verified : ∀ i, Upholds (guard i) (post i) [] (prog i))
    {c : Config M ι} (reached : Reachable M prog c) {i : ι} {e : Event S}
    (mem : e ∈ c.trace.of i) : ∃ early, early <:+ c.trace.of i ∧ guard i early e.op := by
  obtain ⟨rest, path⟩ := reached.path i
  obtain ⟨late, early, share⟩ := List.append_of_mem mem
  rw [share] at path
  obtain ⟨next, issued⟩ := path.issued
  refine ⟨early, ?_, (verified i).guard_of_path issued⟩
  rw [share]
  exact (List.suffix_cons e early).trans (List.suffix_append late _)

/-- A run only extends the trace. -/
theorem Steps.trace_eq {c c' : Config M ι} (run : Steps M prog c c') :
    ∃ late, c'.trace = late ++ c.trace := by
  induction run with
  | refl => exact ⟨[], rfl⟩
  | tail _ edge ih =>
      obtain ⟨late, same⟩ := ih
      cases edge with
      | act waiting effect => exact ⟨_ :: late, congrArg (List.cons _) same⟩

/-- A property of configurations that single steps keep is kept by every later run. -/
theorem Steps.invariant {I : Config M ι → Prop}
    (preserved : ∀ {c c' : Config M ι}, Reachable M prog c → I c → Step M prog c c' → I c')
    {c c' : Config M ι} (reached : Reachable M prog c) (holds : I c)
    (run : Steps M prog c c') : I c' := by
  induction run with
  | refl => exact holds
  | tail before edge ih => exact preserved (reached.steps before) ih edge

end Invariants

end Runs

end AgqlAuth.Interaction
