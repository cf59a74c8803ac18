import Mathlib.Data.List.Basic
import Mathlib.Data.List.Perm.Basic

/-!
# Machines that report their steps

A machine is a state with an executable step per action; an action that is not
enabled has no step.  Each step reports an event, and the trace of a run, newest
event first, is all that an observer sees of it.
-/

namespace AgqlAuth.Interaction

/-- A transition system whose steps report what they did. -/
structure Machine where
  State : Type
  Action : Type
  Event : Type
  step : State → Action → Option (Event × State)

namespace Machine

variable {M : Machine}

/-- Some sequence of the allowed actions leads from `start` here, reporting the trace. -/
inductive Run (M : Machine) (allowed : M.Action → Prop) (start : M.State) :
    List M.Event → M.State → Prop where
  | stay : Run M allowed start [] start
  | act {t : List M.Event} {s s' : M.State} {a : M.Action} {e : M.Event}
      (before : Run M allowed start t s) (permitted : allowed a)
      (edge : M.step s a = some (e, s')) : Run M allowed start (e :: t) s'

/-- Every action is allowed. -/
abbrev Reaches (M : Machine) (start : M.State) : List M.Event → M.State → Prop :=
  Run M (fun _ => True) start

/-- None of these actions is enabled. -/
def Stuck (M : Machine) (allowed : M.Action → Prop) (s : M.State) : Prop :=
  ∀ a, allowed a → M.step s a = none

/-- A schedule of actions, oldest first, as far as each is enabled. -/
def exec (M : Machine) : M.State → List M.Action → Option (List M.Event × M.State)
  | s, [] => some ([], s)
  | s, a :: rest => do
      let (e, s') ← M.step s a
      let (t, last) ← M.exec s' rest
      return (t ++ [e], last)

namespace Run

variable {allowed wider : M.Action → Prop} {start s s' : M.State} {t late early : List M.Event}

theorem mono (run : Run M allowed start t s) (weaker : ∀ a, allowed a → wider a) :
    Run M wider start t s := by
  induction run with
  | stay => exact .stay
  | act _ permitted edge ih => exact .act ih (weaker _ permitted) edge

theorem append (first : Run M allowed start early s) (second : Run M allowed s late s') :
    Run M allowed start (late ++ early) s' := by
  induction second with
  | stay => exact first
  | act _ permitted edge ih => exact .act ih permitted edge

theorem one {a : M.Action} {e : M.Event} (permitted : allowed a)
    (edge : M.step start a = some (e, s)) : Run M allowed start [e] s :=
  .act .stay permitted edge

/-- An executed schedule is a run. -/
theorem of_exec (schedule : List M.Action) (permitted : ∀ a ∈ schedule, allowed a)
    (done : M.exec start schedule = some (t, s)) : Run M allowed start t s := by
  induction schedule generalizing start t with
  | nil =>
      cases done
      exact .stay
  | cons a rest ih =>
      obtain ⟨⟨e, next⟩, edge, continued⟩ := Option.bind_eq_some_iff.mp done
      obtain ⟨⟨later, last⟩, finished, same⟩ := Option.bind_eq_some_iff.mp continued
      cases same
      have first := one (permitted a List.mem_cons_self) edge
      exact first.append (ih (fun b mem => permitted b (List.mem_cons_of_mem a mem)) finished)

/-- Whatever single steps keep holds along the run. -/
theorem invariant {I : List M.Event → M.State → Prop} (run : Run M allowed start t s)
    (base : I [] start)
    (preserved : ∀ {t s a e s'}, Run M allowed start t s → I t s →
      allowed a → M.step s a = some (e, s') → I (e :: t) s') : I t s := by
  induction run with
  | stay => exact base
  | act before permitted edge ih => exact preserved before ih permitted edge

/-- Steps that lower a measure are at most as many as its value. -/
theorem length_add_le {μ : M.State → Nat}
    (lowers : ∀ {s a e s'}, allowed a → M.step s a = some (e, s') → μ s' < μ s)
    (run : Run M allowed start t s) : t.length + μ s ≤ μ start := by
  induction run with
  | stay => simp
  | act _ permitted edge ih =>
      have lower := lowers permitted edge
      rw [List.length_cons]
      omega

/-- Under a measure every run of the allowed actions can be continued until it is stuck. -/
theorem exists_stuck {μ : M.State → Nat}
    (lowers : ∀ {s a e s'}, allowed a → M.step s a = some (e, s') → μ s' < μ s)
    (s : M.State) : ∃ t s', Run M allowed s t s' ∧ M.Stuck allowed s' := by
  induction bound : μ s using Nat.strongRecOn generalizing s with
  | ind n ih =>
      by_cases stuck : M.Stuck allowed s
      · exact ⟨[], s, .stay, stuck⟩
      · simp only [Stuck, not_forall] at stuck
        obtain ⟨a, permitted, enabled⟩ := stuck
        obtain ⟨⟨e, next⟩, edge⟩ := Option.ne_none_iff_exists'.mp enabled
        obtain ⟨t, s', run, done⟩ := ih (μ next) (bound ▸ lowers permitted edge) next rfl
        exact ⟨t ++ [e], s', (one permitted edge).append run, done⟩

end Run

/-- What the events of a trace contribute, oldest first. -/
def collect {ε β : Type} (part : ε → List β) : List ε → List β
  | [] => []
  | e :: t => collect part t ++ part e

section Collect

variable {ε β : Type} {part : ε → List β}

@[simp]
theorem collect_nil : collect part [] = [] := rfl

@[simp]
theorem collect_cons (e : ε) (t : List ε) :
    collect part (e :: t) = collect part t ++ part e := rfl

theorem mem_collect {b : β} {t : List ε} : b ∈ collect part t ↔ ∃ e ∈ t, b ∈ part e := by
  induction t with
  | nil => simp
  | cons e t ih => simp [ih, or_comm]

/-- A contribution that is made once identifies its event. -/
theorem eq_of_nodup_collect {t : List ε} (once : (collect part t).Nodup) {e e' : ε} {b : β}
    (mem : e ∈ t) (mem' : e' ∈ t) (here : b ∈ part e) (here' : b ∈ part e') : e = e' := by
  induction t with
  | nil => cases mem
  | cons first t ih =>
      obtain ⟨rest, -, apart⟩ := List.nodup_append.mp once
      rcases List.mem_cons.mp mem with same | old <;> rcases List.mem_cons.mp mem' with same' | old'
      · rw [same, same']
      · subst same
        exact absurd rfl (apart b (mem_collect.mpr ⟨e', old', here'⟩) b here)
      · subst same'
        exact absurd rfl (apart b (mem_collect.mpr ⟨e, old, here⟩) b here')
      · exact ih rest old old'

end Collect

end Machine

end AgqlAuth.Interaction
