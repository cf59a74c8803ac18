import AgqlAuth.Interaction.Program

/-!
# What a returned value is

A fact about the value alone holds whatever the environment answered, so it needs
no history and composes along the sequence of parts.
-/

namespace AgqlAuth.Interaction

open Program

variable {S : Signature} {α β ε : Type}

/-- Every value `p` can return without failing satisfies `post`. -/
def Yields (post : α → Prop) : Fallible S ε α → Prop
  | ret (.ok value) => post value
  | ret (.error _) => True
  | call _ next => ∀ resp, Yields post (next resp)

namespace Yields

variable {post : α → Prop}

theorem of_ret {result : Except ε α} (holds : ∀ value, result = .ok value → post value) :
    Yields post (ret result : Fallible S ε α) := by
  cases result with
  | ok value => exact holds value rfl
  | error e => trivial

theorem fail {e : ε} : Yields post (Fallible.fail e : Fallible S ε α) := trivial

theorem mono {post' : α → Prop} {p : Fallible S ε α} (weaker : ∀ value, post value → post' value)
    (yields : Yields post p) : Yields post' p := by
  induction p with
  | ret result =>
      refine of_ret fun value returned => ?_
      subst returned
      exact weaker value yields
  | call op next ih => exact fun resp => ih resp (yields resp)

theorem anything (p : Fallible S ε α) : Yields (fun _ => True) p := by
  induction p with
  | ret result => exact of_ret fun _ _ => trivial
  | call op next ih => exact ih

theorem bind {post : β → Prop} {established : α → Prop} {p : Fallible S ε α}
    {f : α → Fallible S ε β} (first : Yields established p)
    (second : ∀ value, established value → Yields post (f value)) :
    Yields post (p >>= f : Fallible S ε β) := by
  induction p with
  | ret result =>
      cases result with
      | ok value => exact second value first
      | error e => trivial
  | call op next ih => exact fun resp => ih resp (first resp)

/-- Nothing is needed of the first part. -/
theorem after {post : β → Prop} {p : Fallible S ε α} {f : α → Fallible S ε β}
    (second : ∀ value, Yields post (f value)) : Yields post (p >>= f : Fallible S ε β) :=
  bind (anything p) fun value _ => second value

theorem branch {c : Prop} [Decidable c] {p q : Fallible S ε α} (taken : c → Yields post p)
    (skipped : ¬c → Yields post q) : Yields post (if c then p else q : Fallible S ε α) := by
  by_cases holds : c
  · rw [if_pos holds]
    exact taken holds
  · rw [if_neg holds]
    exact skipped holds

theorem along {p q : Fallible S ε α} {h : History S} (yields : Yields post p) (path : Path p h q) :
    Yields post q := by
  induction path with
  | start => exact yields
  | step before resp ih => exact ih resp

theorem of_path {p : Fallible S ε α} {h : History S} {value : α} (yields : Yields post p)
    (path : Path p h (ret (.ok value))) : post value :=
  yields.along path

/-- What a program yields, it also yields along a history that says more. -/
theorem upholds {p : Fallible S ε α} (yields : Yields post p) (h : History S) :
    Upholds (fun _ _ => True) (fun _ result => ∀ value, result = .ok value → post value) h p := by
  induction p generalizing h with
  | ret result =>
      rintro value rfl
      exact yields
  | call op next ih => exact ⟨trivial, fun resp => ih resp (yields resp) _⟩

end Yields

end AgqlAuth.Interaction
