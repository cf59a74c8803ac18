import AgqlAuth.Interaction.Interleaving
import Mathlib.Logic.Function.Basic

/-!
# Running an implementation

A shared state is a contract.  An implementation has a state of its own, answers
operations by computation, and meets the contract through an abstraction
function; scheduling it step by step yields reachable configurations of the
contract that evaluate.
-/

namespace AgqlAuth.Interaction

open Program

variable {S : Signature} {ι α : Type} [DecidableEq ι]

/-- An executable store meeting the contract `M`; `none` is no answer yet. -/
structure Implementation (M : Shared S) where
  Memory : Type
  start : Memory
  exec : Memory → (op : S.Op) → Option (S.Resp op × Memory)
  abs : Memory → M.State
  abs_start : abs start = M.init
  meets : ∀ {m op resp m'}, exec m op = some (resp, m') → M.Effect (abs m) op resp (abs m')

/-- A reachable configuration together with what every program has left to run. -/
structure Running {M : Shared S} (impl : Implementation M) (prog : ι → Program S α) where
  trace : Trace S ι
  memory : impl.Memory
  rest : ι → Program S α
  reached : Reachable M prog ⟨trace, impl.abs memory⟩
  follows : ∀ i, Path (prog i) (trace.of i) (rest i)

namespace Running

variable {M : Shared S} {impl : Implementation M} {prog : ι → Program S α}

def config (r : Running impl prog) : Config M ι := ⟨r.trace, impl.abs r.memory⟩

def start : Running impl prog where
  trace := []
  memory := impl.start
  rest := prog
  reached := impl.abs_start ▸ .init
  follows _ := .start

theorem follows_update {t : Trace S ι} {rest : ι → Program S α} {i : ι} {op : S.Op}
    {next : S.Resp op → Program S α} (resp : S.Resp op)
    (follows : ∀ i, Path (prog i) (t.of i) (rest i)) (waiting : rest i = call op next) (j : ι) :
    Path (prog j) (Trace.of j ((i, ⟨op, resp⟩) :: t)) (Function.update rest i (next resp) j) := by
  by_cases same : i = j
  · subst same
    rw [Trace.of_cons_self, Function.update_self]
    exact .step (waiting ▸ follows i) resp
  · rw [Trace.of_cons_ne same, Function.update_of_ne (Ne.symm same)]
    exact follows j

/-- Let program `i` complete the operation it is waiting on, if it can. -/
def advance (r : Running impl prog) (i : ι) : Running impl prog :=
  match waiting : r.rest i with
  | ret _ => r
  | call op next =>
      match answered : impl.exec r.memory op with
      | none => r
      | some (resp, memory) => {
          trace := (i, ⟨op, resp⟩) :: r.trace
          memory
          rest := Function.update r.rest i (next resp)
          reached := r.reached.step (.act (waiting ▸ r.follows i) (impl.meets answered))
          follows := follows_update resp r.follows waiting }

/-- Run a schedule. -/
def schedule (r : Running impl prog) (order : List ι) : Running impl prog :=
  order.foldl advance r

/-- What program `i` has returned. -/
def result? (r : Running impl prog) (i : ι) : Option α :=
  match r.rest i with
  | ret value => some value
  | call .. => none

theorem returned_of_result? {r : Running impl prog} {i : ι} {value : α}
    (result : r.result? i = some value) : Returned prog r.config i value := by
  unfold result? at result
  split at result
  · rename_i returned
    cases result
    have path := r.follows i
    rw [returned] at path
    exact path
  · cases result

/-- A program whose result passes a test has returned such a result. -/
theorem exists_returned {r : Running impl prog} {i : ι} (test : α → Bool)
    (passed : (r.result? i).any test = true) :
    ∃ value, Returned prog r.config i value ∧ test value = true := by
  cases result : r.result? i with
  | none =>
      rw [result] at passed
      cases passed
  | some value =>
      rw [result] at passed
      exact ⟨value, returned_of_result? result, passed⟩

theorem steps_advance (r : Running impl prog) (i : ι) :
    Steps M prog r.config (r.advance i).config := by
  unfold advance
  split
  · exact .refl
  · split
    · exact .refl
    · rename_i waiting _ _ answered
      exact .single (.act (waiting ▸ r.follows i) (impl.meets answered))

theorem steps_schedule (r : Running impl prog) (order : List ι) :
    Steps M prog r.config (r.schedule order).config := by
  induction order generalizing r with
  | nil => exact .refl
  | cons i order ih => exact (steps_advance r i).trans (ih (r.advance i))

end Running

end AgqlAuth.Interaction
