import AgqlAuth.Interaction.FreshNames

/-!
# Spending once

A shared state that remembers which keys were spent and lets an operation spend
only an unspent one.  Over any interleaving a key is spent by one operation at
most, and hence by one program.
-/

namespace AgqlAuth.Interaction

variable {S : Signature} {ι α Key : Type} [DecidableEq ι]

/-- How `M` spends keys: `spends` reads off an event which key it spent. -/
structure OneTime (M : Shared S) (Key : Type) where
  spends : Event S → Option Key
  spent : M.State → Set Key
  fresh : ∀ {s op resp s' key}, M.Effect s op resp s' → spends ⟨op, resp⟩ = some key →
    key ∉ spent s ∧ key ∈ spent s'
  keeps : ∀ {s op resp s'}, M.Effect s op resp s' → spent s ⊆ spent s'

namespace OneTime

variable {M : Shared S} {prog : ι → Program S α} {c : Config M ι}

/-- The keys spent along a trace, newest first. -/
def keys (once : OneTime M Key) (t : Trace S ι) : List Key :=
  t.filterMap fun entry => once.spends entry.2

/-- What was spent is remembered, and was spent once. -/
theorem keys_nodup (once : OneTime M Key) (reached : Reachable M prog c) :
    (∀ key ∈ once.keys c.trace, key ∈ once.spent c.state) ∧ (once.keys c.trace).Nodup := by
  induction reached with
  | refl => exact ⟨nofun, List.nodup_nil⟩
  | tail _ edge ih =>
      obtain ⟨remembered, nodup⟩ := ih
      cases edge with
      | @act t s s' i op next resp waiting effect =>
          cases spends : once.spends ⟨op, resp⟩ with
          | none =>
              have same : once.keys ((i, ⟨op, resp⟩) :: t) = once.keys t :=
                List.filterMap_cons_none spends
              rw [same]
              exact ⟨fun key mem => once.keeps effect (remembered key mem), nodup⟩
          | some key =>
              have more : once.keys ((i, ⟨op, resp⟩) :: t) = key :: once.keys t :=
                List.filterMap_cons_some spends
              obtain ⟨unspent, now⟩ := once.fresh effect spends
              rw [more]
              refine ⟨?_, List.nodup_cons.mpr ⟨fun mem => unspent (remembered key mem), nodup⟩⟩
              intro other mem
              rcases List.mem_cons.mp mem with rfl | mem
              · exact now
              · exact once.keeps effect (remembered other mem)

/-- Programs that have spent the same key are the same program. -/
theorem unique (once : OneTime M Key) (reached : Reachable M prog c) {i j : ι} {e e' : Event S}
    {key : Key} (mem : e ∈ c.trace.of i) (mem' : e' ∈ c.trace.of j)
    (spends : once.spends e = some key) (spends' : once.spends e' = some key) : i = j := by
  have same := FreshNames.entry_unique (once.keys_nodup reached).2 (Trace.mem_of.mp mem)
    (Trace.mem_of.mp mem') spends spends'
  exact congrArg Prod.fst same

end OneTime

end AgqlAuth.Interaction
