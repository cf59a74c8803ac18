import AgqlAuth.Interaction.Interleaving

/-!
# Registers

A cell of the shared state that programs read and write.  Over any interleaving,
what is read was written before.
-/

namespace AgqlAuth.Interaction

variable {S : Signature} {ι α V : Type} [DecidableEq ι]

/-- A cell of `M`: what an event reads from it and writes to it, and what it holds. -/
structure Register (M : Shared S) (V : Type) where
  reads : Event S → Option V
  writes : Event S → Option V
  holds : M.State → Option V
  empty : holds M.init = none
  read : ∀ {s op resp s' value}, M.Effect s op resp s' → reads ⟨op, resp⟩ = some value →
    holds s = some value
  wrote : ∀ {s op resp s' value}, M.Effect s op resp s' → holds s' = some value →
    holds s = some value ∨ writes ⟨op, resp⟩ = some value

namespace Register

variable {M : Shared S} {prog : ι → Program S α} {c : Config M ι}

/-- Some program has written `value`. -/
def Written (cell : Register M V) (t : Trace S ι) (value : V) : Prop :=
  ∃ i, ∃ e ∈ t.of i, cell.writes e = some value

variable {cell : Register M V} {value : V}

theorem Written.later {early : Trace S ι} (written : cell.Written early value)
    (late : Trace S ι) : cell.Written (late ++ early) value := by
  obtain ⟨i, e, mem, writes⟩ := written
  refine ⟨i, e, ?_, writes⟩
  rw [Trace.of_append]
  exact List.mem_append_right _ mem

theorem written_of_holds (reached : Reachable M prog c) (held : cell.holds c.state = some value) :
    cell.Written c.trace value := by
  induction reached with
  | refl =>
      rw [cell.empty] at held
      cases held
  | tail _ edge ih =>
      cases edge with
      | @act t s s' i op next resp waiting effect =>
          rcases cell.wrote effect held with kept | writes
          · exact (ih kept).later [_]
          · exact ⟨i, _, Trace.mem_of.mpr List.mem_cons_self, writes⟩

/-- What was read had been written. -/
theorem written_of_reads (reached : Reachable M prog c) {i : ι} {e : Event S}
    (mem : e ∈ c.trace.of i) (reads : cell.reads e = some value) :
    cell.Written c.trace value := by
  obtain ⟨late, early, share⟩ := List.append_of_mem (Trace.mem_of.mp mem)
  obtain ⟨s, s', before, -, effect, -⟩ := reached.split share
  have written := written_of_holds before (cell.read effect reads)
  rw [share, ← List.singleton_append, ← List.append_assoc]
  exact written.later _

end Register

end AgqlAuth.Interaction
