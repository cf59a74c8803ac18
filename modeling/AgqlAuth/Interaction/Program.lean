/-!
# Interactive programs

A program that reaches its environment only through named operations is a
finite tree: it either returns, or issues one operation and continues with
whatever the environment answers.  The tree fixes nothing about the answers, so
a fact proved along every path of the tree holds under every environment and
under every interleaving with other programs.

Histories are kept newest event first.
-/

namespace AgqlAuth.Interaction

/-- The operations a program may issue, each with the type of its answers. -/
structure Signature where
  Op : Type
  Resp : Op → Type

/-- One completed operation together with the answer it received. -/
structure Event (S : Signature) where
  op : S.Op
  resp : S.Resp op

abbrev History (S : Signature) := List (Event S)

inductive Program (S : Signature) (α : Type) where
  | ret (value : α)
  | call (op : S.Op) (next : S.Resp op → Program S α)

namespace Program

variable {S : Signature} {α β ε : Type}

def bind : Program S α → (α → Program S β) → Program S β
  | ret value, f => f value
  | call op next, f => call op fun resp => (next resp).bind f

@[simp]
theorem ret_bind (value : α) (f : α → Program S β) : (ret value).bind f = f value := rfl

@[simp]
theorem call_bind (op : S.Op) (next : S.Resp op → Program S α) (f : α → Program S β) :
    (call op next).bind f = call op fun resp => (next resp).bind f := rfl

/-- `Path p h q`: answering the operations of `p` as recorded in `h` leaves `q`. -/
inductive Path (p : Program S α) : History S → Program S α → Prop where
  | start : Path p [] p
  | step {h : History S} {op : S.Op} {next : S.Resp op → Program S α}
      (before : Path p h (call op next)) (resp : S.Resp op) :
      Path p (⟨op, resp⟩ :: h) (next resp)

namespace Path

/-- A history determines what is left to run. -/
theorem unique {p : Program S α} {h : History S} {q : Program S α} (first : Path p h q) :
    ∀ {q' : Program S α}, Path p h q' → q = q' := by
  induction first with
  | start =>
      intro q' second
      cases second
      rfl
  | step before resp ih =>
      intro q' second
      cases second with
      | step before' _ =>
          have same := ih before'
          injection same with _ hnext
          subst hnext
          rfl

/-- Dropping the newest event leaves the program at the operation it issued. -/
theorem tail {p q : Program S α} {e : Event S} {h : History S} (path : Path p (e :: h) q) :
    ∃ next : S.Resp e.op → Program S α, Path p h (call e.op next) ∧ q = next e.resp := by
  cases path with
  | step before resp => exact ⟨_, before, rfl⟩

/-- Every earlier point of a path is a path. -/
theorem of_append {p q : Program S α} {late early : History S} (path : Path p (late ++ early) q) :
    ∃ q', Path p early q' := by
  induction late generalizing q with
  | nil => exact ⟨q, path⟩
  | cons e late ih =>
      obtain ⟨next, before, -⟩ := path.tail
      exact ih before

/-- Where a recorded operation was issued. -/
theorem issued {p q : Program S α} {e : Event S} {late early : History S}
    (path : Path p (late ++ e :: early) q) :
    ∃ next : S.Resp e.op → Program S α, Path p early (call e.op next) := by
  obtain ⟨q', path'⟩ := path.of_append
  obtain ⟨next, before, -⟩ := path'.tail
  exact ⟨next, before⟩

end Path

/--
`Upholds guard post h p`: continuing from history `h`, every operation `p` can
issue satisfies `guard` at the history it is issued in, and every value `p` can
return satisfies `post` at the final history.
-/
def Upholds (guard : History S → S.Op → Prop) (post : History S → α → Prop) :
    History S → Program S α → Prop
  | h, ret value => post h value
  | h, call op next => guard h op ∧ ∀ resp, Upholds guard post (⟨op, resp⟩ :: h) (next resp)

namespace Upholds

variable {guard guard' : History S → S.Op → Prop} {post post' : History S → α → Prop}

theorem await {h : History S} {op : S.Op} {next : S.Resp op → Program S α}
    (issued : guard h op) (answered : ∀ resp, Upholds guard post (⟨op, resp⟩ :: h) (next resp)) :
    Upholds guard post h (call op next) :=
  ⟨issued, answered⟩

theorem mono {h : History S} {p : Program S α}
    (hguard : ∀ h op, guard h op → guard' h op)
    (hpost : ∀ h value, post h value → post' h value)
    (holds : Upholds guard post h p) : Upholds guard' post' h p := by
  induction p generalizing h with
  | ret value => exact hpost h value holds
  | call op next ih => exact ⟨hguard h op holds.1, fun resp => ih resp (holds.2 resp)⟩

theorem bind {post : History S → β → Prop} {h : History S} {p : Program S α}
    {f : α → Program S β}
    (holds : Upholds guard (fun h value => Upholds guard post h (f value)) h p) :
    Upholds guard post h (p.bind f) := by
  induction p generalizing h with
  | ret value => exact holds
  | call op next ih => exact ⟨holds.1, fun resp => ih resp (holds.2 resp)⟩

theorem and {h : History S} {p : Program S α} (first : Upholds guard post h p)
    (second : Upholds guard' post' h p) :
    Upholds (fun h op => guard h op ∧ guard' h op) (fun h value => post h value ∧ post' h value)
      h p := by
  induction p generalizing h with
  | ret value => exact ⟨first, second⟩
  | call op next ih =>
      exact ⟨⟨first.1, second.1⟩, fun resp => ih resp (first.2 resp) (second.2 resp)⟩

/-- What holds of a program run from `early` holds of its part of a longer history. -/
theorem after {early past : History S} {p : Program S α} (holds : Upholds guard post early p) :
    Upholds (fun h op => ∃ late, h = late ++ past ∧ guard late op)
      (fun h value => ∃ late, h = late ++ past ∧ post late value) (early ++ past) p := by
  induction p generalizing early with
  | ret value => exact ⟨early, rfl, holds⟩
  | call op next ih =>
      refine ⟨⟨early, rfl, holds.1⟩, fun resp => ?_⟩
      have later := ih resp (holds.2 resp)
      exact later

/-- A program only extends the history it started from. -/
theorem suffix {h : History S} {p : Program S α} (holds : Upholds guard post h p) :
    Upholds (fun late op => h <:+ late ∧ guard late op)
      (fun late value => h <:+ late ∧ post late value) h p := by
  induction p generalizing h with
  | ret value => exact ⟨List.suffix_refl h, holds⟩
  | call op next ih =>
      refine ⟨⟨List.suffix_refl h, holds.1⟩, fun resp => (ih resp (holds.2 resp)).mono ?_ ?_⟩
      · intro late op ⟨longer, hguard⟩
        exact ⟨(List.suffix_cons _ h).trans longer, hguard⟩
      · intro late value ⟨longer, hpost⟩
        exact ⟨(List.suffix_cons _ h).trans longer, hpost⟩

/-- What holds of a program holds of everything it can become. -/
theorem along {p q : Program S α} {h : History S} (holds : Upholds guard post [] p)
    (path : Path p h q) : Upholds guard post h q := by
  induction path with
  | start => exact holds
  | step before resp ih => exact ih.2 resp

theorem guard_of_path {p : Program S α} {h : History S} {op : S.Op}
    {next : S.Resp op → Program S α} (holds : Upholds guard post [] p)
    (path : Path p h (call op next)) : guard h op :=
  (holds.along path).1

theorem post_of_path {p : Program S α} {h : History S} {value : α}
    (holds : Upholds guard post [] p) (path : Path p h (ret value)) : post h value :=
  holds.along path

end Upholds

/-- Some answers lead from history `h` to a value that satisfies `post`. -/
def Attains (post : History S → α → Prop) : History S → Program S α → Prop
  | h, ret value => post h value
  | h, call op next => ∃ resp, Attains post (⟨op, resp⟩ :: h) (next resp)

namespace Attains

variable {post : History S → β → Prop} {h : History S}

theorem bind {p : Program S α} {f : α → Program S β}
    (attains : Attains (fun h value => Attains post h (f value)) h p) :
    Attains post h (p.bind f) := by
  induction p generalizing h with
  | ret value => exact attains
  | call op next ih =>
      obtain ⟨resp, attains⟩ := attains
      exact ⟨resp, ih resp attains⟩

theorem path_of {start : Program S β} {h : History S} {p : Program S β}
    (reached : Path start h p) (attains : Attains post h p) :
    ∃ late value, Path start late (ret value) ∧ post late value := by
  induction p generalizing h with
  | ret value => exact ⟨h, value, reached, attains⟩
  | call op next ih =>
      obtain ⟨resp, attains⟩ := attains
      exact ih resp (reached.step resp) attains

end Attains

/-- Run to the end on the answers of `answer`, as far as it has one. -/
def finish (answer : (op : S.Op) → Option (S.Resp op)) :
    Program S α → History S → Option (History S × α)
  | ret value, h => some (h, value)
  | call op next, h => (answer op).bind fun resp => finish answer (next resp) (⟨op, resp⟩ :: h)

theorem Path.finish {start p : Program S α} {h late : History S} {value : α}
    {answer : (op : S.Op) → Option (S.Resp op)} (path : Path start h p)
    (finished : p.finish answer h = some (late, value)) : Path start late (ret value) := by
  induction p generalizing h with
  | ret value' =>
      cases finished
      exact path
  | call op next ih =>
      obtain ⟨resp, -, finished⟩ := Option.bind_eq_some_iff.mp finished
      exact ih resp (path.step resp) finished

/-- A run on fixed answers whose result passes a test is a path to such a result. -/
theorem exists_path_of_finish (p : Program S α) (answer : (op : S.Op) → Option (S.Resp op))
    (test : α → Bool) (passed : (p.finish answer []).any (fun ended => test ended.2) = true) :
    ∃ h value, Path p h (ret value) ∧ test value = true := by
  cases finished : p.finish answer [] with
  | none =>
      rw [finished] at passed
      cases passed
  | some ended =>
      rw [finished, Option.any_some] at passed
      exact ⟨ended.1, ended.2, Path.finish .start finished, passed⟩

/-- `p` only issues operations from `Q`, whatever it is answered. -/
def Issues (Q : S.Op → Prop) : Program S α → Prop
  | ret _ => True
  | call op next => Q op ∧ ∀ resp, Issues Q (next resp)

namespace Issues

variable {Q Q' : S.Op → Prop}

/-- Nothing is asked of the operations. -/
theorem anything (p : Program S α) : Issues (fun _ => True) p := by
  induction p with
  | ret value => trivial
  | call op next ih => exact ⟨trivial, ih⟩

theorem bind {p : Program S α} {f : α → Program S β} (first : Issues Q p)
    (second : ∀ value, Issues Q (f value)) : Issues Q (p.bind f) := by
  induction p with
  | ret value => exact second value
  | call op next ih => exact ⟨first.1, fun resp => ih resp (first.2 resp)⟩

/-- Such a program only prepends events of `Q` to its history. -/
theorem upholds_after {guard : History S → S.Op → Prop} {post : History S → α → Prop}
    {p : Program S α} {h : History S} (issues : Issues Q p)
    (allowed : ∀ late op, (∀ e ∈ late, Q e.op) → Q op → guard (late ++ h) op)
    (returned : ∀ late value, (∀ e ∈ late, Q e.op) → post (late ++ h) value) :
    Upholds guard post h p := by
  induction p generalizing h with
  | ret value => exact returned [] value (by simp)
  | call op next ih =>
      refine ⟨allowed [] op (by simp) issues.1, fun resp => ih resp (issues.2 resp) ?_ ?_⟩
      all_goals
        intro late value quiet
        have extended : ∀ e ∈ late ++ [⟨op, resp⟩], Q e.op := by
          intro e mem
          rcases List.mem_append.mp mem with mem | mem
          · exact quiet e mem
          · rw [List.mem_singleton.mp mem]
            exact issues.1
      · have longer := allowed (late ++ [⟨op, resp⟩]) value extended
        rwa [List.append_assoc] at longer
      · have longer := returned (late ++ [⟨op, resp⟩]) value extended
        rwa [List.append_assoc] at longer

/-- From the start, such a program has only events of `Q`. -/
theorem upholds_only {p : Program S α} (issues : Issues Q p) :
    Upholds (fun _ _ => True) (fun h _ => ∀ e ∈ h, Q e.op) [] p :=
  issues.upholds_after (fun _ _ _ _ => trivial) fun late _ only => by simpa using only

theorem upholds {guard : History S → S.Op → Prop} {post : History S → α → Prop}
    {p : Program S α} {h : History S} (issues : Issues Q p)
    (allowed : ∀ h op, Q op → guard h op)
    (returned : ∀ late value, (∀ e ∈ late, Q e.op) → post (late ++ h) value) :
    Upholds guard post h p :=
  issues.upholds_after (fun _ op _ => allowed _ op) returned

end Issues

end Program

/-- A program whose answer may be an error; errors end the program. -/
def Fallible (S : Signature) (ε α : Type) := Program S (Except ε α)

namespace Fallible

open Program

variable {S : Signature} {α β ε : Type}

def bind (p : Fallible S ε α) (f : α → Fallible S ε β) : Fallible S ε β :=
  Program.bind p fun
    | .ok value => f value
    | .error e => ret (.error e)

def fail (e : ε) : Fallible S ε α := ret (.error e)

/-- Issue an operation that cannot fail. -/
def perform (op : S.Op) : Fallible S ε (S.Resp op) := call op fun resp => ret (.ok resp)

instance : Monad (Fallible S ε) where
  pure value := ret (.ok value)
  bind := Fallible.bind

@[simp]
theorem pure_eq (value : α) : (pure value : Fallible S ε α) = ret (.ok value) := rfl

@[simp]
theorem bind_eq (p : Fallible S ε α) (f : α → Fallible S ε β) : p >>= f = Fallible.bind p f := rfl

/-- A result is passed to the continuation `f`, or is an error that ends the program. -/
abbrev Continues (guard : History S → S.Op → Prop) (post : History S → Except ε β → Prop)
    (f : α → Fallible S ε β) (h : History S) : Except ε α → Prop
  | .ok value => Program.Upholds guard post h (f value)
  | .error e => post h (.error e)

/-- A part that has returned a value continues with it. -/
theorem Upholds.resume {guard : History S → S.Op → Prop}
    {post : History S → Except ε β → Prop} {h : History S} {value : α}
    {f : α → Fallible S ε β} (continued : Program.Upholds guard post h (f value)) :
    Program.Upholds guard (Continues guard post f) h (ret (.ok value) : Fallible S ε α) :=
  continued

/-- A part that has failed ends the program. -/
theorem Upholds.stop {guard : History S → S.Op → Prop}
    {post : History S → Except ε β → Prop} {h : History S} {e : ε}
    {f : α → Fallible S ε β} (ended : post h (.error e)) :
    Program.Upholds guard (Continues guard post f) h (ret (.error e) : Fallible S ε α) :=
  ended

theorem Upholds.bind {guard : History S → S.Op → Prop}
    {post : History S → Except ε β → Prop} {h : History S} {p : Fallible S ε α}
    {f : α → Fallible S ε β}
    (holds : Program.Upholds guard (Continues guard post f) h p) :
    Program.Upholds guard post h (p >>= f : Fallible S ε β) := by
  refine Program.Upholds.bind (holds.mono (fun _ _ hg => hg) ?_)
  intro h result hresult
  cases result with
  | ok value => exact hresult
  | error e => exact hresult

/-- A pure result continues the program or ends it. -/
theorem Upholds.lift_bind {guard : History S → S.Op → Prop}
    {post : History S → Except ε β → Prop} {h : History S} {result : Except ε α}
    {f : α → Fallible S ε β}
    (ok : ∀ value, result = .ok value → Program.Upholds guard post h (f value))
    (error : ∀ e, result = .error e → post h (.error e)) :
    Program.Upholds guard post h ((ret result : Fallible S ε α) >>= f : Fallible S ε β) := by
  cases result with
  | ok value => exact ok value rfl
  | error e => exact error e rfl

theorem Upholds.perform_bind {guard : History S → S.Op → Prop}
    {post : History S → Except ε β → Prop} {h : History S} {op : S.Op}
    {f : S.Resp op → Fallible S ε β} (issued : guard h op)
    (answered : ∀ resp, Program.Upholds guard post (⟨op, resp⟩ :: h) (f resp)) :
    Program.Upholds guard post h ((perform op : Fallible S ε _) >>= f : Fallible S ε β) :=
  ⟨issued, answered⟩

theorem Upholds.branch {guard : History S → S.Op → Prop}
    {post : History S → Except ε α → Prop} {h : History S} {c : Prop} [Decidable c]
    {p q : Fallible S ε α}
    (taken : c → Program.Upholds guard post h p)
    (skipped : ¬c → Program.Upholds guard post h q) :
    Program.Upholds guard post h (if c then p else q : Fallible S ε α) := by
  by_cases holds : c
  · rw [if_pos holds]
    exact taken holds
  · rw [if_neg holds]
    exact skipped holds

/-- A part that only issues operations from `Q` is followed by its continuation. -/
theorem Upholds.issues_bind {guard : History S → S.Op → Prop}
    {post : History S → Except ε β → Prop} {h : History S} {Q : S.Op → Prop}
    {p : Fallible S ε α} {f : α → Fallible S ε β} (issues : Program.Issues Q p)
    (allowed : ∀ late op, (∀ e ∈ late, Q e.op) → Q op → guard (late ++ h) op)
    (ok : ∀ late value, (∀ e ∈ late, Q e.op) → Program.Upholds guard post (late ++ h) (f value))
    (error : ∀ late e, post late (.error e)) :
    Program.Upholds guard post h (p >>= f : Fallible S ε β) := by
  apply Upholds.bind
  apply issues.upholds_after allowed
  intro late result quiet
  cases result with
  | ok value => exact ok late value quiet
  | error e => exact error _ e

/-- A part that some answers bring to a value is followed by its continuation. -/
theorem Attains.bind {post : History S → Except ε β → Prop} {h : History S}
    {p : Fallible S ε α} {f : α → Fallible S ε β}
    (attains : Program.Attains
      (fun h result => ∃ value, result = .ok value ∧ Program.Attains post h (f value)) h p) :
    Program.Attains post h (p >>= f : Fallible S ε β) := by
  apply Program.Attains.bind
  induction p generalizing h with
  | ret result =>
      obtain ⟨value, rfl, attains⟩ := attains
      exact attains
  | call op next ih =>
      obtain ⟨resp, attains⟩ := attains
      exact ⟨resp, ih resp attains⟩

theorem Attains.lift_bind {post : History S → Except ε β → Prop} {h : History S}
    {result : Except ε α} {value : α} {f : α → Fallible S ε β} (ok : result = .ok value)
    (attains : Program.Attains post h (f value)) :
    Program.Attains post h ((ret result : Fallible S ε α) >>= f : Fallible S ε β) := by
  subst ok
  exact attains

theorem Issues.bind {Q : S.Op → Prop} {p : Fallible S ε α} {f : α → Fallible S ε β}
    (first : Program.Issues Q p) (second : ∀ value, Program.Issues Q (f value)) :
    Program.Issues Q (p >>= f : Fallible S ε β) := by
  refine Program.Issues.bind first fun result => ?_
  cases result with
  | ok value => exact second value
  | error e => trivial

theorem Issues.branch {Q : S.Op → Prop} {c : Prop} [Decidable c] {p q : Fallible S ε α}
    (taken : Program.Issues Q p) (skipped : Program.Issues Q q) :
    Program.Issues Q (if c then p else q : Fallible S ε α) := by
  by_cases holds : c
  · rw [if_pos holds]
    exact taken
  · rw [if_neg holds]
    exact skipped

end Fallible

/-- No operation needs a licence. -/
abbrev Unlicensed (S : Signature) : History S → S.Op → Prop := fun _ _ => True

/-- A result that is a value has established something; an error establishes nothing. -/
def Succeeds {S : Signature} {α ε : Type} (established : History S → α → Prop) (h : History S)
    (result : Except ε α) : Prop :=
  ∀ value, result = .ok value → established h value

namespace Succeeds

variable {S : Signature} {α ε : Type} {established : History S → α → Prop} {h : History S}

theorem error {e : ε} : Succeeds established h (.error e : Except ε α) := by
  intro value returned
  cases returned

theorem ok {value : α} (holds : established h value) :
    Succeeds established h (.ok value : Except ε α) := by
  intro value' returned
  cases returned
  exact holds

end Succeeds

end AgqlAuth.Interaction
