import AgqlAuth.Refresh.Family

/-!
# Grants along a session family

A rotation intersects the presented record's grants with the current authority
and, on a reuse, with the newest record's.  So grants only narrow, both along
the replacement chain and from a presented token to what it was exchanged for.
-/

namespace AgqlAuth

open Interaction

variable {ι : Type} [DecidableEq ι]

/-- Roles, scopes and authorization roles are each a subset. -/
structure Narrower (record older : StoredRefreshToken) : Prop where
  roles : record.roles ⊆ older.roles
  scopes : record.scopes ⊆ older.scopes
  authorizationRoles : record.authorizationRoles ⊆ older.authorizationRoles

namespace Narrower

theorem trans {r r' r'' : StoredRefreshToken} (first : Narrower r r') (second : Narrower r' r'') :
    Narrower r r'' where
  roles := List.Subset.trans first.roles second.roles
  scopes := List.Subset.trans first.scopes second.scopes
  authorizationRoles := List.Subset.trans first.authorizationRoles second.authorizationRoles

/-- Grants belong to the core of a record. -/
theorem core_iff {record older : StoredRefreshToken} :
    Narrower record.core older.core ↔ Narrower record older :=
  ⟨fun n => ⟨n.roles, n.scopes, n.authorizationRoles⟩,
    fun n => ⟨n.roles, n.scopes, n.authorizationRoles⟩⟩

theorem of_later {record older older' : StoredRefreshToken} (narrower : Narrower record older)
    (later : Later older older') : Narrower record older' where
  roles := by
    rw [later.field (·.roles)]
    exact narrower.roles
  scopes := by
    rw [later.field (·.scopes)]
    exact narrower.scopes
  authorizationRoles := by
    rw [later.field (·.authorizationRoles)]
    exact narrower.authorizationRoles

end Narrower

section Plans

variable {svc : AuthService} {refreshToken : String} {assuranceOverride : Option SessionAssurance}
variable {currentTokenId : Uuid} {record source current : StoredRefreshToken}
variable {now : OffsetDateTime} {newest : Option StoredRefreshToken} {user : StoredUser}
variable {grant : CurrentRefreshGrant} {h : AuthHistory} {t : RefreshTrace ι} {w : RefreshWorld}
variable {i : ι}

theorem Replacement.narrower_source
    (replacement : Replacement source newest user grant assuranceOverride record) :
    Narrower record source where
  roles := fun role mem => (replacement.roles role mem).1
  scopes := fun scope mem => (replacement.scopes scope mem).1
  authorizationRoles := fun role mem => (replacement.authorizationRoles role mem).1

theorem Replacement.narrower_newest {head : StoredRefreshToken}
    (replacement : Replacement source (some head) user grant assuranceOverride record) :
    Narrower record head where
  roles := fun role mem => (replacement.roles role mem).2.2 head rfl
  scopes := fun scope mem => (replacement.scopes scope mem).2.2 head rfl
  authorizationRoles := fun role mem => (replacement.authorizationRoles role mem).2 head rfl

/-- The stored record a rotation replaces, as the call knew it. -/
theorem RotationPlan.narrower_current (sound : Sound t w)
    (plan : RotationPlan svc refreshToken assuranceOverride h currentTokenId record now source
      newest user grant) (share : h ⊆ t.of i) :
    ∃ current, w.records currentTokenId = some current ∧ Narrower record current := by
  have replacement := plan.replacement
  cases plan.target with
  | ordinary unrevoked unexpired =>
      obtain ⟨current, stored, later⟩ := sound.shown (observed_of_foundByHash (share plan.found))
      exact ⟨current, stored, replacement.narrower_source.of_later later⟩
  | @reuse head within snapshot replaceable =>
      obtain ⟨current, stored, later⟩ :=
        sound.shown (observed_of_readLive (share snapshot) (List.mem_singleton_self head))
      exact ⟨current, stored, replacement.narrower_newest.of_later later⟩

end Plans

section Families

variable {liveReads : Bool} {calls : RefreshPool ι} {c : RefreshConfig liveReads ι}

/-- Both records exist and the newer one grants no more. -/
def GrantsNarrow (w : RefreshWorld) (newer older : Uuid) : Prop :=
  ∃ record replaced, w.records newer = some record ∧ w.records older = some replaced ∧
    Narrower record replaced

instance (w : RefreshWorld) : Trans (GrantsNarrow w) (GrantsNarrow w) (GrantsNarrow w) where
  trans := by
    rintro a b c ⟨first, second, first_stored, second_stored, narrower⟩
      ⟨second', third, second_stored', third_stored, narrower'⟩
    cases second_stored.symm.trans second_stored'
    exact ⟨first, third, first_stored, third_stored, narrower.trans narrower'⟩

theorem Chain.pairwise_narrower {w : RefreshWorld} {fam : Uuid} {ids : List Uuid}
    (chain : Chain Narrower w fam ids) : ids.Pairwise (GrantsNarrow w) := by
  refine List.isChain_iff_pairwise.mp (chain.links.imp ?_)
  rintro newer older ⟨record, replaced, stored, replaced_stored, -, -, narrower⟩
  exact ⟨record, replaced, stored, replaced_stored, Narrower.core_iff.mp narrower⟩

/-- Along a family in commit order every record grants no more than any earlier one. -/
theorem family_narrows (reached : RefreshReachable liveReads calls c) (fam : Uuid) :
    ∃ ids, Chain Narrower c.state fam ids ∧ ids.Pairwise (GrantsNarrow c.state) := by
  have keeps : ∀ {t : RefreshTrace ι} {w i fam current record now},
      RefreshReachable liveReads calls ⟨t, w⟩ →
        Extension (calls i).1 (calls i).2 (t.of i) w fam current record now →
          Narrower record.core current.core := by
    intro t w i fam current record now reached extension
    obtain ⟨_, _, _, _, _, _, -, plan⟩ := extension.planned
    obtain ⟨_, stored, narrower⟩ :=
      plan.narrower_current (sound_of_reachable reached) (List.Subset.refl _)
    cases extension.stored.symm.trans stored
    exact Narrower.core_iff.mpr narrower
  obtain ⟨ids, chain, -⟩ := family_chain Narrower keeps reached fam
  exact ⟨ids, chain, chain.pairwise_narrower⟩

/--
Grants never widen.  A rotation committed anywhere in a run grants no more than
the record it replaced, than the record its caller presented and, in roles and
scopes, than the current grant the call read; and along every family each
record grants no more than every earlier one.
-/
theorem grants_never_widen (reached : RefreshReachable liveReads calls c) :
    (∀ i late early currentTokenId record now ipAddress userAgent,
      c.trace.of i = late ++ ⟨.rotateRefreshToken currentTokenId record now ipAddress userAgent,
        (.ok true : AuthResult Bool)⟩ :: early →
      ∃ current source grant, c.state.records currentTokenId = some current ∧
        (view early).presented = some source ∧ (view early).grant = some grant ∧
        Narrower record current ∧ Narrower record source ∧
        record.roles ⊆ grant.roles ∧ record.scopes ⊆ grant.scopes) ∧
      ∀ fam, ∃ ids, Chain Narrower c.state fam ids ∧ ids.Pairwise (GrantsNarrow c.state) := by
  refine ⟨?_, family_narrows reached⟩
  intro i late early currentTokenId record now ipAddress userAgent share
  obtain ⟨_, _, source, newest, user, grant, -, plan⟩ := issued_allowed reached share
  have known : early ⊆ c.trace.of i := by
    rw [share]
    intro e mem
    exact List.mem_append_right late (List.mem_cons_of_mem _ mem)
  obtain ⟨current, stored, narrower⟩ := plan.narrower_current (sound_of_reachable reached) known
  have replacement := plan.replacement
  refine ⟨current, source, grant, stored, plan.presented, plan.grant_read, narrower,
    replacement.narrower_source, ?_, ?_⟩
  · exact fun role mem => (replacement.roles role mem).2.1
  · exact fun scope mem => (replacement.scopes scope mem).2.1

theorem reuse_grants_narrow :
    (sampleRun [0, 1, 2, 3]).memory.store.tokens.map (·.scopes) =
        [["read"], ["read"], ["read"], ["read", "write"]] ∧
      ∃ ids, Chain Narrower (sampleRun [0, 1, 2, 3]).config.state sampleFamily ids ∧
        ids.Pairwise (GrantsNarrow (sampleRun [0, 1, 2, 3]).config.state) :=
  ⟨rfl, (grants_never_widen (sampleRun [0, 1, 2, 3]).reached).2 sampleFamily⟩

end Families

end AgqlAuth
