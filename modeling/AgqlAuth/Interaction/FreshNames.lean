import AgqlAuth.Interaction.Interleaving
import Mathlib.Data.List.Nodup

/-!
# Fresh names

A shared state that hands out names never handed out before.  Over any
interleaving the names drawn are pairwise different, so a name identifies the
operation, and hence the program, that drew it.
-/

namespace AgqlAuth.Interaction

variable {S : Signature} {ι α Name : Type} [DecidableEq ι]

/-- The names `M` hands out: `drawn` reads them off an event. -/
structure FreshNames (M : Shared S) (Name : Type) where
  drawn : Event S → Option Name
  issued : M.State → List Name
  init : issued M.init = []
  draw : ∀ {s op resp s' name}, M.Effect s op resp s' → drawn ⟨op, resp⟩ = some name →
    name ∉ issued s ∧ issued s' = name :: issued s
  keep : ∀ {s op resp s'}, M.Effect s op resp s' → drawn ⟨op, resp⟩ = none → issued s' = issued s

namespace FreshNames

variable {M : Shared S} {prog : ι → Program S α} {c : Config M ι}

/-- The names drawn along a trace, newest first. -/
def names (fresh : FreshNames M Name) (t : Trace S ι) : List Name :=
  t.filterMap fun entry => fresh.drawn entry.2

/-- The state records exactly the names drawn, each once. -/
theorem names_nodup (fresh : FreshNames M Name) (reached : Reachable M prog c) :
    fresh.issued c.state = fresh.names c.trace ∧ (fresh.names c.trace).Nodup := by
  induction reached with
  | refl => exact ⟨fresh.init, List.nodup_nil⟩
  | tail _ edge ih =>
      obtain ⟨issued, nodup⟩ := ih
      cases edge with
      | @act t s s' i op next resp waiting effect =>
          cases drawn : fresh.drawn ⟨op, resp⟩ with
          | none =>
              have same : fresh.names ((i, ⟨op, resp⟩) :: t) = fresh.names t :=
                List.filterMap_cons_none drawn
              rw [same]
              exact ⟨(fresh.keep effect drawn).trans issued, nodup⟩
          | some name =>
              have more : fresh.names ((i, ⟨op, resp⟩) :: t) = name :: fresh.names t :=
                List.filterMap_cons_some drawn
              obtain ⟨new, extended⟩ := fresh.draw effect drawn
              rw [more, ← issued]
              refine ⟨extended, List.nodup_cons.mpr ⟨new, ?_⟩⟩
              rw [issued]
              exact nodup

theorem entry_unique {f : α → Option Name} {l : List α} (nodup : (l.filterMap f).Nodup)
    {a b : α} {name : Name} (ha : a ∈ l) (hb : b ∈ l) (fa : f a = some name)
    (fb : f b = some name) : a = b := by
  induction l with
  | nil => cases ha
  | cons x l ih =>
      cases fx : f x with
      | none =>
          rw [List.filterMap_cons_none fx] at nodup
          have ne : ∀ {y}, f y = some name → y ≠ x := by
            rintro y fy rfl
            cases fx.symm.trans fy
          exact ih nodup ((List.mem_cons.mp ha).resolve_left (ne fa))
            ((List.mem_cons.mp hb).resolve_left (ne fb))
      | some name' =>
          rw [List.filterMap_cons_some fx, List.nodup_cons] at nodup
          obtain ⟨new, nodup⟩ := nodup
          have later : ∀ {y}, y ∈ l → f y = some name → name' ≠ name := by
            rintro y mem fy rfl
            exact new (List.mem_filterMap.mpr ⟨y, mem, fy⟩)
          rcases List.mem_cons.mp ha with rfl | olda
          · rcases List.mem_cons.mp hb with rfl | oldb
            · rfl
            · exact absurd (Option.some.inj (fx.symm.trans fa)) (later oldb fb)
          · rcases List.mem_cons.mp hb with rfl | oldb
            · exact absurd (Option.some.inj (fx.symm.trans fb)) (later olda fa)
            · exact ih nodup olda oldb

/-- A name is drawn by one program. -/
theorem once (fresh : FreshNames M Name) (reached : Reachable M prog c) {i j : ι} {e e' : Event S}
    {name : Name} (mem : e ∈ c.trace.of i) (mem' : e' ∈ c.trace.of j)
    (drawn : fresh.drawn e = some name) (drawn' : fresh.drawn e' = some name) : i = j := by
  have same := entry_unique (fresh.names_nodup reached).2 (Trace.mem_of.mp mem)
    (Trace.mem_of.mp mem') drawn drawn'
  exact congrArg Prod.fst same

end FreshNames

end AgqlAuth.Interaction
