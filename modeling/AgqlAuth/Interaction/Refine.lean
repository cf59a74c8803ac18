import AgqlAuth.Interaction.Program

/-!
# Operations carried out by programs

An operation of one environment may itself be a program over another.  Replacing
every operation by its program refines the program that issues them: a run of the
refinement is a run of the original, with the answers its parts have returned.
-/

namespace AgqlAuth.Interaction

variable {S T : Signature} {α β ε : Type}

namespace Program

/-- Every operation of `p`, carried out. -/
def refine (carryOut : (op : S.Op) → Program T (S.Resp op)) : Program S α → Program T α
  | ret value => ret value
  | call op next => (carryOut op).bind fun resp => (next resp).refine carryOut

/--
`Explains answered H h`: the events of `h` were carried out one after the other,
and `answered` holds of each with its part of `H`.
-/
inductive Explains (answered : (op : S.Op) → History T → S.Resp op → Prop) :
    History T → History S → Prop where
  | start : Explains answered [] []
  | step {H part : History T} {h : History S} {op : S.Op} {resp : S.Resp op}
      (before : Explains answered H h) (part_ : answered op part resp) :
      Explains answered (part ++ H) (⟨op, resp⟩ :: h)

variable {answered : (op : S.Op) → History T → S.Resp op → Prop}
variable {carryOut : (op : S.Op) → Program T (S.Resp op)}

/-- The last event was carried out by the last part of the history. -/
theorem Explains.last {H : History T} {h : History S} {e : Event S}
    (explains : Explains answered H (e :: h)) :
    ∃ part earlier, H = part ++ earlier ∧ answered e.op part e.resp ∧
      Explains answered earlier h := by
  cases explains with
  | step before holds => exact ⟨_, _, rfl, holds, before⟩

/-- Every event was carried out by a part of the history. -/
theorem Explains.part {H : History T} {h : History S} (explains : Explains answered H h)
    {e : Event S} (mem : e ∈ h) : ∃ part, part <:+: H ∧ answered e.op part e.resp := by
  induction explains with
  | start => cases mem
  | @step H part h op resp before holds ih =>
      rcases List.mem_cons.mp mem with rfl | mem
      · exact ⟨part, (List.prefix_append part H).isInfix, holds⟩
      · obtain ⟨earlier, inside, holds⟩ := ih mem
        exact ⟨earlier, inside.trans (List.suffix_append part H).isInfix, holds⟩

/--
Refinement rule.  The parts are verified once for each operation, the program over
its own operations; the refinement upholds both.
-/
theorem Upholds.refine {guard : History S → S.Op → Prop} {post : History S → α → Prop}
    {allowed : (op : S.Op) → History T → T.Op → Prop}
    (parts : ∀ op, Upholds (allowed op) (answered op) [] (carryOut op))
    {H : History T} {h : History S} {p : Program S α} (holds : Upholds guard post h p)
    (explains : Explains answered H h) :
    Upholds
      (fun H op' => ∃ h op part earlier, Explains answered earlier h ∧ guard h op ∧
        H = part ++ earlier ∧ allowed op part op')
      (fun H value => ∃ h, Explains answered H h ∧ post h value) H (p.refine carryOut) := by
  induction p generalizing H h with
  | ret value => exact ⟨h, explains, holds⟩
  | call op next ih =>
      apply Upholds.bind
      refine (Upholds.after (parts op)).mono ?_ ?_
      · rintro H' op' ⟨part, rfl, granted⟩
        exact ⟨h, op, part, H, explains, holds.1, rfl, granted⟩
      · rintro H' resp ⟨part, rfl, returned⟩
        exact ih resp (holds.2 resp) (explains.step returned)

end Program

end AgqlAuth.Interaction
