import AgqlAuth.Interaction.Program

/-!
# Programs over two environments

A program that talks to two environments issues the operations of either.  A
program of one of them is a program over both that never addresses the other.
-/

namespace AgqlAuth.Interaction

/-- The operations of two signatures side by side. -/
def Signature.sum (S T : Signature) : Signature where
  Op := S.Op ⊕ T.Op
  Resp
    | .inl op => S.Resp op
    | .inr op => T.Resp op

namespace Program

variable {S T : Signature} {α : Type}

/-- A program of the first environment, run next to the second. -/
def inl : Program S α → Program (S.sum T) α
  | ret value => ret value
  | call op next => call (.inl op : (S.sum T).Op) fun resp => (next resp).inl

/-- The lifted program issues what the program itself issues. -/
theorem issues_inl {Q : S.Op → Prop} {R : (S.sum T).Op → Prop} {p : Program S α}
    (issues : Issues Q p) (allowed : ∀ op, Q op → R (.inl op)) :
    Issues R (p.inl : Program (S.sum T) α) := by
  induction p with
  | ret value => trivial
  | call op next ih => exact ⟨allowed op issues.1, fun resp => ih resp (issues.2 resp)⟩

/-- An event of the first environment, seen from both. -/
def liftEvent (e : Event S) : Event (S.sum T) := ⟨.inl e.op, e.resp⟩

/-- What holds of a program run from the start holds of the lifted one after any history. -/
theorem upholds_inl {guard : History (S.sum T) → (S.sum T).Op → Prop}
    {post : History (S.sum T) → α → Prop} {h : History (S.sum T)} {p : Program S α}
    (holds : Upholds (fun late op => guard (late.map liftEvent ++ h) (.inl op))
      (fun late value => post (late.map liftEvent ++ h) value) [] p) :
    Upholds guard post h (p.inl : Program (S.sum T) α) := by
  have continued : ∀ late, Upholds (fun late op => guard (late.map liftEvent ++ h) (.inl op))
      (fun late value => post (late.map liftEvent ++ h) value) late p →
      Upholds guard post (late.map liftEvent ++ h) (p.inl : Program (S.sum T) α) := by
    clear holds
    induction p with
    | ret value => exact fun _ holds => holds
    | call op next ih =>
        intro late holds
        exact ⟨holds.1, fun resp => ih resp _ (holds.2 resp)⟩
  exact continued [] holds

/-- A program of the second environment, run next to the first. -/
def inr : Program T α → Program (S.sum T) α
  | ret value => ret value
  | call op next => call (.inr op : (S.sum T).Op) fun resp => (next resp).inr

/-- An event of the second environment, seen from both. -/
def liftRight (e : Event T) : Event (S.sum T) := ⟨.inr e.op, e.resp⟩

/-- The same rule for the second environment. -/
theorem upholds_inr {guard : History (S.sum T) → (S.sum T).Op → Prop}
    {post : History (S.sum T) → α → Prop} {h : History (S.sum T)} {p : Program T α}
    (holds : Upholds (fun late op => guard (late.map liftRight ++ h) (.inr op))
      (fun late value => post (late.map liftRight ++ h) value) [] p) :
    Upholds guard post h (p.inr : Program (S.sum T) α) := by
  have continued : ∀ late, Upholds (fun late op => guard (late.map liftRight ++ h) (.inr op))
      (fun late value => post (late.map liftRight ++ h) value) late p →
      Upholds guard post (late.map liftRight ++ h) (p.inr : Program (S.sum T) α) := by
    clear holds
    induction p with
    | ret value => exact fun _ holds => holds
    | call op next ih =>
        intro late holds
        exact ⟨holds.1, fun resp => ih resp _ (holds.2 resp)⟩
  exact continued [] holds

/-- Every program upholds that it is on one of its own paths. -/
theorem Upholds.own (p : Program S α) :
    Upholds (fun h op => ∃ next, Path p h (call op next)) (fun h value => Path p h (ret value))
      [] p := by
  have continued : ∀ (q : Program S α) h, Path p h q →
      Upholds (fun h op => ∃ next, Path p h (call op next))
        (fun h value => Path p h (ret value)) h q := by
    intro q
    induction q with
    | ret value => exact fun _ path => path
    | call op next ih => exact fun h path => ⟨⟨next, path⟩, fun resp => ih resp _ (path.step resp)⟩
  exact continued p [] .start

end Program

namespace Fallible

open Program

variable {S T : Signature} {α ε ε' : Type}

/-- A fallible program of the first environment, whose errors are passed on as `f` of them. -/
def widen (f : ε → ε') (p : Fallible S ε α) : Fallible (S.sum T) ε' α :=
  Program.bind (Program.inl p) fun result => ret (result.mapError f)

/-- What holds of the program run from the start holds of the widened one after any history. -/
theorem Upholds.widen {guard : History (S.sum T) → (S.sum T).Op → Prop}
    {post : History (S.sum T) → Except ε' α → Prop} {h : History (S.sum T)} {f : ε → ε'}
    {p : Fallible S ε α}
    (holds : Program.Upholds (fun late op => guard (late.map liftEvent ++ h) (.inl op))
      (fun late result => post (late.map liftEvent ++ h) (result.mapError f)) [] p) :
    Program.Upholds guard post h (Fallible.widen f p : Fallible (S.sum T) ε' α) := by
  apply Program.Upholds.bind
  exact Program.upholds_inl holds

end Fallible

end AgqlAuth.Interaction
