import AgqlAuth.Interaction.Interleaving
import Mathlib.Algebra.Order.Group.Defs
import Mathlib.Algebra.Order.Monoid.Unbundled.Pow
import Mathlib.Data.List.Basic
import Mathlib.Tactic.Abel

/-!
# Cooldowns

A gate that remembers the instant of its last grant and grants again only a gap
later.  Over any interleaving the grants are apart, so few fit into a window, and
whoever is denied came within the gap after a grant.
-/

namespace AgqlAuth.Interaction

variable {S : Signature} {ι α T : Type} [DecidableEq ι]
variable [AddCommGroup T] [LinearOrder T]

/-- Newest first, every two instants are at least `gap` apart. -/
def Spaced (gap : T) (instants : List T) : Prop :=
  instants.Pairwise fun late early => early + gap ≤ late

namespace Spaced

variable [IsOrderedAddMonoid T] {gap start stop : T} {instants : List T}

theorem cons (wide : 0 ≤ gap) (spaced : Spaced gap instants) {instant : T}
    (next : ∀ last ∈ instants.head?, last + gap ≤ instant) : Spaced gap (instant :: instants) := by
  refine List.pairwise_cons.mpr ⟨fun early mem => ?_, spaced⟩
  cases instants with
  | nil => cases mem
  | cons last earlier =>
      have recent := next last rfl
      rcases List.mem_cons.mp mem with rfl | mem
      · exact recent
      · have apart := (List.pairwise_cons.mp spaced).1 early mem
        calc early + gap ≤ last := apart
          _ ≤ last + gap := le_add_of_nonneg_right wide
          _ ≤ instant := recent

/-- So many instants of a window span it. -/
theorem nsmul_le (spaced : Spaced gap instants)
    (within : ∀ instant ∈ instants, start ≤ instant ∧ instant ≤ stop) (some_ : instants ≠ []) :
    (instants.length - 1) • gap ≤ stop - start := by
  induction instants generalizing stop with
  | nil => exact absurd rfl some_
  | cons late earlier ih =>
      obtain ⟨first, last⟩ := within late List.mem_cons_self
      cases earlier with
      | nil => simpa using first.trans last
      | cons next earlier =>
          have apart := List.pairwise_cons.mp spaced
          have bound : ((next :: earlier).length - 1) • gap ≤ late - gap - start := by
            refine ih apart.2 (fun instant mem => ⟨?_, ?_⟩) (List.cons_ne_nil _ _)
            · exact (within instant (List.mem_cons_of_mem _ mem)).1
            · exact le_sub_iff_add_le.mpr (apart.1 instant mem)
          have count : (late :: next :: earlier).length - 1 =
              ((next :: earlier).length - 1) + 1 := rfl
          rw [count, succ_nsmul]
          calc ((next :: earlier).length - 1) • gap + gap
              ≤ (late - gap - start) + gap := by gcongr
            _ = late - start := by abel
            _ ≤ stop - start := by gcongr

end Spaced

/-- Which events of `M` are granted and denied, and when. -/
structure Cooldown (M : Shared S) (gap : T) where
  grants : Event S → Option T
  denies : Event S → Option T
  last : M.State → Option T
  idle : last M.init = none
  granted : ∀ {s op resp s' instant}, M.Effect s op resp s' →
    grants ⟨op, resp⟩ = some instant →
      last s' = some instant ∧ ∀ before ∈ last s, before + gap ≤ instant
  denied : ∀ {s op resp s' instant}, M.Effect s op resp s' →
    denies ⟨op, resp⟩ = some instant → ∃ before ∈ last s, instant < before + gap
  kept : ∀ {s op resp s'}, M.Effect s op resp s' → grants ⟨op, resp⟩ = none →
    last s' = last s

namespace Cooldown

variable {M : Shared S} {prog : ι → Program S α} {c : Config M ι} {gap : T}

/-- The instants of the grants, newest first. -/
def instants (gate : Cooldown M gap) (t : Trace S ι) : List T :=
  t.filterMap fun entry => gate.grants entry.2

variable {gate : Cooldown M gap}

theorem last_eq (reached : Reachable M prog c) :
    gate.last c.state = (gate.instants c.trace).head? := by
  induction reached with
  | refl => exact gate.idle
  | tail _ edge ih =>
      cases edge with
      | @act t s s' i op next resp waiting effect =>
          cases grants : gate.grants ⟨op, resp⟩ with
          | none =>
              have same : gate.instants ((i, ⟨op, resp⟩) :: t) = gate.instants t :=
                List.filterMap_cons_none grants
              rw [same, gate.kept effect grants]
              exact ih
          | some instant =>
              have more : gate.instants ((i, ⟨op, resp⟩) :: t) = instant :: gate.instants t :=
                List.filterMap_cons_some grants
              rw [more, (gate.granted effect grants).1]
              rfl

theorem spaced [IsOrderedAddMonoid T] (wide : 0 ≤ gap) (reached : Reachable M prog c) :
    Spaced gap (gate.instants c.trace) := by
  induction reached with
  | refl => exact List.Pairwise.nil
  | tail before edge ih =>
      cases edge with
      | @act t s s' i op next resp waiting effect =>
          cases grants : gate.grants ⟨op, resp⟩ with
          | none =>
              have same : gate.instants ((i, ⟨op, resp⟩) :: t) = gate.instants t :=
                List.filterMap_cons_none grants
              rw [same]
              exact ih
          | some instant =>
              have more : gate.instants ((i, ⟨op, resp⟩) :: t) = instant :: gate.instants t :=
                List.filterMap_cons_some grants
              rw [more]
              refine ih.cons wide fun last mem => (gate.granted effect grants).2 last ?_
              rw [last_eq before]
              exact mem

/-- Programs that were each granted within a window are few. -/
theorem nsmul_le [IsOrderedAddMonoid T] (wide : 0 ≤ gap) (reached : Reachable M prog c)
    {start stop : T} {programs : List ι} (distinct : programs.Nodup) (some_ : programs ≠ [])
    (each : ∀ i ∈ programs, ∃ e ∈ c.trace.of i, ∃ instant ∈ gate.grants e,
      start ≤ instant ∧ instant ≤ stop) :
    (programs.length - 1) • gap ≤ stop - start := by
  let within : T → Bool := fun instant => decide (start ≤ instant ∧ instant ≤ stop)
  let inWindow := (gate.instants c.trace).filter within
  have counted : programs.length ≤ inWindow.length := by
    have bound := Trace.length_le_countP (t := c.trace)
      (P := fun e => ((gate.grants e).map within).getD false) distinct fun i mem => by
        obtain ⟨e, share, instant, grants, inside⟩ := each i mem
        exact ⟨e, share, by simp [Option.mem_def.mp grants, within, inside]⟩
    rwa [← List.countP_filterMap, List.countP_eq_length_filter] at bound
  have spaced : Spaced gap inWindow := (gate.spaced wide reached).filter within
  have bound : (inWindow.length - 1) • gap ≤ stop - start := by
    refine spaced.nsmul_le (fun instant mem => ?_)
      (List.ne_nil_of_length_pos ((List.length_pos_of_ne_nil some_).trans_le counted))
    simpa [within] using (List.mem_filter.mp mem).2
  have fewer : programs.length - 1 ≤ inWindow.length - 1 := Nat.sub_le_sub_right counted 1
  exact (nsmul_le_nsmul_left wide fewer).trans bound

/-- Whoever is denied came too early after a grant. -/
theorem granted_of_denied (reached : Reachable M prog c) {i : ι} {e : Event S} {instant : T}
    (mem : e ∈ c.trace.of i) (denies : gate.denies e = some instant) :
    ∃ before ∈ gate.instants c.trace, instant < before + gap := by
  obtain ⟨late, early, share⟩ := List.append_of_mem (Trace.mem_of.mp mem)
  obtain ⟨s, s', earlier, -, effect, -⟩ := reached.split share
  obtain ⟨before, last, early'⟩ := gate.denied effect denies
  rw [last_eq earlier] at last
  refine ⟨before, ?_, early'⟩
  have among : before ∈ gate.instants early := List.mem_of_mem_head? last
  rw [share, instants, List.filterMap_append, List.filterMap_cons]
  refine List.mem_append_right _ ?_
  split
  · exact among
  · exact List.mem_cons_of_mem _ among

end Cooldown

end AgqlAuth.Interaction
