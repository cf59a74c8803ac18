import AgqlAuth.Interaction.Interleaving

/-!
# Facts that stand

A fact about the shared state that operations establish and withdraw.  Over any
interleaving a fact that stands was proposed by an operation, and none completed
since has withdrawn it; a fact that was secured stands until an operation
threatens it.
-/

namespace AgqlAuth.Interaction

variable {S : Signature} {ι α Fact : Type} [DecidableEq ι]

/--
How the events of `M` bear on facts.  An event that proposes a fact may establish
it and one that secures it does; one that threatens it may end it and one that
withdraws it does.
-/
structure Standing (M : Shared S) (Fact : Type) where
  stands : M.State → Fact → Prop
  proposes : Event S → Fact → Prop
  secures : Event S → Fact → Prop
  withdraws : Event S → Fact → Prop
  threatens : Event S → Fact → Prop
  init : ∀ fact, ¬stands M.init fact
  origin : ∀ {s op resp s' fact}, M.Effect s op resp s' → stands s' fact →
    proposes ⟨op, resp⟩ fact ∨ stands s fact ∧ ¬withdraws ⟨op, resp⟩ fact
  secured : ∀ {s op resp s' fact}, M.Effect s op resp s' → secures ⟨op, resp⟩ fact →
    stands s' fact
  kept : ∀ {s op resp s' fact}, M.Effect s op resp s' → stands s fact →
    ¬threatens ⟨op, resp⟩ fact → stands s' fact

namespace Standing

variable {M : Shared S} {prog : ι → Program S α} {c : Config M ι}

/-- Program `j` proposed the fact by `e`, and no event since has withdrawn it. -/
structure Since (rule : Standing M Fact) (t : Trace S ι) (j : ι) (e : Event S) (fact : Fact) :
    Prop where
  proposed : rule.proposes e fact
  upheld : ∃ late early, t = late ++ (j, e) :: early ∧
    ∀ entry ∈ late, ¬rule.withdraws entry.2 fact

variable {rule : Standing M Fact} {fact : Fact}

omit [DecidableEq ι] in
theorem Since.cons {t : Trace S ι} {j : ι} {e : Event S} (since : rule.Since t j e fact)
    {entry : ι × Event S} (spared : ¬rule.withdraws entry.2 fact) :
    rule.Since (entry :: t) j e fact := by
  obtain ⟨proposed, late, early, rfl, upheld⟩ := since
  refine ⟨proposed, entry :: late, early, rfl, fun other mem => ?_⟩
  rcases List.mem_cons.mp mem with rfl | mem
  · exact spared
  · exact upheld other mem

/-- What stands was proposed and not withdrawn since. -/
theorem since_of_stands (reached : Reachable M prog c) (stands : rule.stands c.state fact) :
    ∃ j e, rule.Since c.trace j e fact := by
  induction reached with
  | refl => exact absurd stands (rule.init fact)
  | tail _ edge ih =>
      cases edge with
      | @act t s s' i op next resp waiting effect =>
          rcases rule.origin effect stands with proposed | ⟨before, spared⟩
          · exact ⟨i, _, proposed, [], t, rfl, nofun⟩
          · obtain ⟨j, e, since⟩ := ih before
            exact ⟨j, e, since.cons spared⟩

/-- What was secured stands as long as nothing threatens it. -/
theorem stands_of_secured (reached : Reachable M prog c) {late early : Trace S ι} {j : ι}
    {e : Event S} (share : c.trace = late ++ (j, e) :: early) (secures : rule.secures e fact)
    (safe : ∀ entry ∈ late, ¬rule.threatens entry.2 fact) : rule.stands c.state fact := by
  induction reached generalizing late with
  | refl =>
      have longer := congrArg List.length share
      simp at longer
  | tail _ edge ih =>
      cases edge with
      | @act t s s' i op next resp waiting effect =>
          cases late with
          | nil =>
              cases share
              exact rule.secured effect secures
          | cons entry late =>
              have before : rule.stands s fact :=
                ih (List.cons.inj share).2 fun other mem => safe other (List.mem_cons_of_mem _ mem)
              refine rule.kept effect before ?_
              have next := safe entry List.mem_cons_self
              rwa [← (List.cons.inj share).1] at next

omit [DecidableEq ι] in
/-- A fact that was withdrawn and stands again was proposed again. -/
theorem Since.of_withdrawn {t late early : Trace S ι} {i j : ι} {e e' : Event S}
    (since : rule.Since t j e fact) (share : t = late ++ (i, e') :: early)
    (withdrawn : rule.withdraws e' fact) (ne : ¬rule.withdraws e fact) : (j, e) ∈ late := by
  obtain ⟨-, late', early', share', upheld⟩ := since
  rw [share] at share'
  rcases List.append_eq_append_iff.mp share' with ⟨between, rfl, cut⟩ | ⟨between, rfl, cut⟩
  · cases between with
    | nil =>
        cases cut
        exact absurd withdrawn ne
    | cons entry between =>
        obtain ⟨rfl, -⟩ := List.cons.inj cut
        exact absurd withdrawn (upheld _ (List.mem_append_right _ List.mem_cons_self))
  · cases between with
    | nil =>
        cases cut
        exact absurd withdrawn ne
    | cons entry between =>
        obtain ⟨rfl, -⟩ := List.cons.inj cut
        exact List.mem_append_right _ List.mem_cons_self

end Standing

end AgqlAuth.Interaction
