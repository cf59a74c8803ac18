import AgqlAuth.Interaction.FreshNames
import AgqlAuth.Refresh.Store

/-!
# Any number of calls on one refresh store

Every call runs with its own service instance.  The results here hold in every
state any interleaving reaches: identifiers are drawn once, a record is owned by
the call that placed it, and what a call was shown is still in the store.
-/

namespace AgqlAuth

open Interaction

variable {ι : Type} [DecidableEq ι]

/-- The calls of a pool, each on its own service instance. -/
abbrev RefreshPool (ι : Type) := ι → AuthService × RefreshCall

def RefreshPool.program (calls : RefreshPool ι) (i : ι) :
    Program authSignature RefreshCall.Result :=
  (calls i).2.program (calls i).1

abbrev RefreshConfig (liveReads : Bool) (ι : Type) := Config (refreshStore liveReads) ι

/-- Reached by some interleaving of the pool over some store meeting the contract. -/
abbrev RefreshReachable (liveReads : Bool) (calls : RefreshPool ι)
    (c : RefreshConfig liveReads ι) : Prop :=
  Reachable (refreshStore liveReads) calls.program c

abbrev RefreshTrace (ι : Type) := Trace authSignature ι

section Invariants

variable {liveReads : Bool} {calls : RefreshPool ι} {t : RefreshTrace ι} {w w' : RefreshWorld}
variable {i j : ι} {e : AuthEvent}

/-- The change call `i` of the pool makes when it completes `e`. -/
abbrev PoolChange (liveReads : Bool) (calls : RefreshPool ι) (t : RefreshTrace ι) (w : RefreshWorld)
    (i : ι) (e : AuthEvent) (w' : RefreshWorld) : Prop :=
  RecordChange liveReads (calls i).1 (calls i).2 (t.of i) w e w'

/-- Call `i` of the pool completes `e`, an operation it may issue. -/
structure PoolStep (liveReads : Bool) (calls : RefreshPool ι) (t : RefreshTrace ι)
    (w : RefreshWorld) (i : ι) (e : AuthEvent) (w' : RefreshWorld) : Prop where
  allowed : callGuard (calls i).1 (calls i).2 (t.of i) e.op
  effect : RefreshEffect liveReads w e.op e.resp w'

theorem PoolStep.change (step : PoolStep liveReads calls t w i e w') :
    PoolChange liveReads calls t w i e w' :=
  recordChange_of_effect step.allowed step.effect

/-- Invariant rule for pools: what single operations keep holds throughout. -/
theorem refresh_invariant {I : RefreshTrace ι → RefreshWorld → Prop}
    (base : I [] ⟨fun _ => none, []⟩)
    (preserved : ∀ {t : RefreshTrace ι} {w w' : RefreshWorld} {i : ι} {e : AuthEvent},
      RefreshReachable liveReads calls ⟨t, w⟩ → I t w → PoolStep liveReads calls t w i e w' →
        I ((i, e) :: t) w')
    {c : RefreshConfig liveReads ι} (reached : RefreshReachable liveReads calls c) :
    I c.trace c.state := by
  refine Reachable.invariant (I := fun c => I c.trace c.state)
    (fun i => RefreshCall.verified (calls i).1 (calls i).2) base ?_ reached
  intro t s s' i op resp before holds allowed effect
  exact preserved before holds ⟨allowed, effect⟩

/-- A step of the pool is an allowed operation of one call. -/
theorem refresh_step {c c' : RefreshConfig liveReads ι}
    (edge : Step (refreshStore liveReads) calls.program c c') :
    ∃ i e, c'.trace = (i, e) :: c.trace ∧
      PoolStep liveReads calls c.trace c.state i e c'.state := by
  cases edge with
  | @act t s s' i op next resp waiting effect =>
      refine ⟨i, ⟨op, resp⟩, rfl, ?_, effect⟩
      exact (RefreshCall.verified (calls i).1 (calls i).2).guard_of_path waiting

/-- Every operation in a call's history was allowed when it was issued. -/
theorem issued_allowed {c : RefreshConfig liveReads ι} (reached : RefreshReachable liveReads calls c)
    {late early : AuthHistory} (share : c.trace.of i = late ++ e :: early) :
    callGuard (calls i).1 (calls i).2 early e.op := by
  obtain ⟨rest, path⟩ := reached.path i
  rw [share] at path
  obtain ⟨next, before⟩ := path.issued
  exact (RefreshCall.verified (calls i).1 (calls i).2).guard_of_path before

/-- What a call is shown or writes stays in its history. -/
theorem mem_of_cons {e' : AuthEvent} (mem : e' ∈ t.of j) : e' ∈ Trace.of j ((i, e) :: t) := by
  rw [Trace.mem_of] at mem ⊢
  exact List.mem_cons_of_mem _ mem

theorem mem_of_cons_iff {e' : AuthEvent} :
    e' ∈ Trace.of j ((i, e) :: t) ↔ (i = j ∧ e' = e) ∨ e' ∈ t.of j := by
  rw [Trace.mem_of, List.mem_cons, Trace.mem_of]
  constructor
  · rintro (same | mem)
    · cases same
      exact .inl ⟨rfl, rfl⟩
    · exact .inr mem
  · rintro (⟨rfl, rfl⟩ | mem)
    · exact .inl rfl
    · exact .inr mem

theorem writes_cons_ne_nil (written : writes (t.of j) ≠ []) :
    writes (Trace.of j ((i, e) :: t)) ≠ [] := by
  by_cases same : i = j
  · subst same
    rw [Trace.of_cons_self]
    intro empty
    apply written
    rw [writes, List.filterMap_eq_nil_iff] at empty ⊢
    exact fun e' mem => empty e' (List.mem_cons_of_mem e mem)
  · rw [Trace.of_cons_ne same]
    exact written

/-- Identifiers are the names a refresh store hands out. -/
def refreshUuids (liveReads : Bool) : FreshNames (refreshStore liveReads) Uuid where
  drawn := drawnUuid
  issued := RefreshWorld.generated
  init := rfl
  draw := by
    intro s op resp s' name effect drawn
    cases op with
    | newUuid =>
        cases drawn
        obtain ⟨new, rfl⟩ := effect
        exact ⟨new, rfl⟩
    | _ => cases drawn
  keep := by
    intro s op resp s' effect drawn
    cases op with
    | newUuid => cases drawn
    | insertRefreshToken token =>
        rcases OrFailed.cases effect with rfl | ⟨-, rfl⟩
        · rfl
        · rfl
    | findRefreshTokenByHash tokenHash => exact congrArg _ effect.1
    | findLiveRefreshTokensInFamily sessionFamilyId => exact congrArg _ effect.1
    | revokeRefreshToken tokenId revokedAt replacedByTokenId reason =>
        rcases OrFailed.cases effect with rfl | pointwise
        · rfl
        · exact pointwise.1
    | revokeRefreshTokenFamily sessionFamilyId revokedAt reason =>
        rcases OrFailed.cases effect with rfl | pointwise
        · rfl
        · exact pointwise.1
    | touchRefreshToken tokenId usedAt ipAddress userAgent =>
        rcases OrFailed.cases effect with rfl | pointwise
        · rfl
        · exact pointwise.1
    | rotateRefreshToken currentTokenId record now ipAddress userAgent =>
        rcases resp with e | _ | _
        · exact congrArg _ effect
        · exact congrArg _ effect.1
        · obtain ⟨current, -, -, -, rfl⟩ := effect
          rfl
    | _ => exact congrArg _ effect

theorem drawn_once {c : RefreshConfig liveReads ι} (reached : RefreshReachable liveReads calls c)
    {id : Uuid} (first : drew id ∈ c.trace.of i) (second : drew id ∈ c.trace.of j) : i = j :=
  (refreshUuids liveReads).once reached first second rfl rfl

/-- The record an answered operation placed in the store. -/
def placedBy (e : AuthEvent) : Option StoredRefreshToken :=
  match writeOf e with
  | some (.inserted record) | some (.rotated _ record) => some record
  | _ => none

/-- The answers that place a record. -/
inductive Places : AuthEvent → StoredRefreshToken → Prop where
  | inserted (record : StoredRefreshToken) (resp : AuthResult Unit) :
      Places ⟨.insertRefreshToken record, resp⟩ record
  | rotated (currentTokenId : Uuid) (record : StoredRefreshToken) (now : OffsetDateTime)
      (ipAddress userAgent : Option String) :
      Places ⟨.rotateRefreshToken currentTokenId record now ipAddress userAgent,
        (.ok true : AuthResult Bool)⟩ record

theorem places_of_placedBy {e : AuthEvent} {record : StoredRefreshToken}
    (placed : placedBy e = some record) : Places e record := by
  unfold placedBy at placed
  split at placed
  case h_1 written =>
    cases placed
    cases wrote_of_writeOf written
    exact .inserted record _
  case h_2 currentTokenId _ written =>
    cases placed
    cases wrote_of_writeOf written
    exact .rotated currentTokenId record _ _ _
  case h_3 => cases placed

/-- What is known of a record that call `i` places with `e`. -/
structure Placement (t : RefreshTrace ι) (i : ι) (e : AuthEvent) (record : StoredRefreshToken) :
    Prop where
  placed : placedBy e = some record
  unwritten : writes (t.of i) = []
  drawn : drew record.id ∈ t.of i
  /-- A new family, or that of a token the call was shown. -/
  family : drew record.sessionFamilyId ∈ t.of i ∨
    ∃ source, Observed (t.of i) source ∧ source.sessionFamilyId = record.sessionFamilyId
  metadata : record.refreshableMetadata ≠ some {}

theorem Placement.writes_ne_nil {record : StoredRefreshToken}
    (placement : Placement t i e record) : writes (Trace.of i ((i, e) :: t)) ≠ [] := by
  have placed := placement.placed
  rw [Trace.of_cons_self]
  unfold placedBy at placed
  cases written : writeOf e with
  | none =>
      rw [written] at placed
      cases placed
  | some write =>
      rw [writes_first written placement.unwritten]
      nofun

theorem SessionPlan.placement {call : RefreshCall} {record : StoredRefreshToken}
    {resp : AuthOp.Resp (.insertRefreshToken record)} (plan : SessionPlan call (t.of i) record) :
    Placement t i ⟨.insertRefreshToken record, resp⟩ record where
  placed := rfl
  unwritten := plan.unwritten
  drawn := plan.drawn
  family := .inl plan.family_drawn
  metadata := plan.metadata

theorem RotationPlan.placement {svc : AuthService} {refreshToken : String}
    {assuranceOverride : Option SessionAssurance} {currentTokenId : Uuid}
    {record source : StoredRefreshToken} {now : OffsetDateTime}
    {newest : Option StoredRefreshToken} {user : StoredUser} {grant : CurrentRefreshGrant}
    {ipAddress userAgent : Option String}
    (plan : RotationPlan svc refreshToken assuranceOverride (t.of i) currentTokenId record now
      source newest user grant) :
    Placement t i ⟨.rotateRefreshToken currentTokenId record now ipAddress userAgent,
      (.ok true : AuthResult Bool)⟩ record where
  placed := rfl
  unwritten := plan.unwritten
  drawn := plan.drawn
  family := .inr ⟨source, observed_of_foundByHash plan.found, plan.replacement.family.symm⟩
  metadata := by
    rw [plan.replacement.metadata]
    intro default
    have kept := (Option.filter_eq_some_iff.mp default).2
    simp at kept

/-- A later version of a record. -/
structure Later (record record' : StoredRefreshToken) : Prop where
  core : record'.core = record.core
  revoked : record.revokedAt ≠ none → record'.revokedAt ≠ none

theorem Later.refl (record : StoredRefreshToken) : Later record record := ⟨rfl, id⟩

theorem Later.trans {r r' r'' : StoredRefreshToken} (first : Later r r') (second : Later r' r'') :
    Later r r'' :=
  ⟨second.core.trans first.core, fun revoked => second.revoked (first.revoked revoked)⟩

/-- Fields of the core are those of the earlier version. -/
theorem Later.field {record record' : StoredRefreshToken} {β : Type} (later : Later record record')
    (f : StoredRefreshToken → β) (core : ∀ r, f r.core = f r := by exact fun _ => rfl) :
    f record' = f record := by
  rw [← core record', later.core, core record]

theorem Restamped.later {record record' : StoredRefreshToken}
    (restamped : Restamped record record') : Later record record' :=
  ⟨restamped.core, restamped.revoked⟩

theorem superseded_later (current : StoredRefreshToken) (replacementId : Uuid)
    (now : OffsetDateTime) (ipAddress userAgent : Option String) :
    Later current (superseded current replacementId now ipAddress userAgent) :=
  ⟨rfl, nofun⟩

structure Sound (t : RefreshTrace ι) (w : RefreshWorld) : Prop where
  keyed : ∀ {id record}, w.records id = some record → record.id = id
  /-- The call that drew a record's identifier has placed a record. -/
  owned : ∀ {id record}, w.records id = some record →
    ∃ i, drew id ∈ t.of i ∧ writes (t.of i) ≠ []
  family_owned : ∀ {id record}, w.records id = some record →
    ∃ i, drew record.sessionFamilyId ∈ t.of i ∧ writes (t.of i) ≠ []
  /-- What a call was shown is still stored. -/
  shown : ∀ {i token}, Observed (t.of i) token →
    ∃ record, w.records token.id = some record ∧ Later token record

namespace Sound

theorem init : Sound ([] : RefreshTrace ι) ⟨fun _ => none, []⟩ where
  keyed := nofun
  owned := nofun
  family_owned := nofun
  shown := by
    rintro i token ⟨e, mem, -⟩
    cases mem

section Fresh

variable (reached : RefreshReachable liveReads calls ⟨t, w⟩) (sound : Sound t w)
include reached sound

/-- A call that has written nothing has not yet used the identifiers it drew. -/
theorem fresh_id {id : Uuid} (drawn : drew id ∈ t.of i) (unwritten : writes (t.of i) = []) :
    w.records id = none := by
  cases stored : w.records id with
  | none => rfl
  | some record =>
      obtain ⟨j, drawn', written⟩ := sound.owned stored
      have same : i = j := drawn_once reached drawn drawn'
      subst same
      exact absurd unwritten written

theorem fresh_family {fam : Uuid} (drawn : drew fam ∈ t.of i) (unwritten : writes (t.of i) = [])
    {id : Uuid} {record : StoredRefreshToken} (stored : w.records id = some record) :
    record.sessionFamilyId ≠ fam := by
  rintro rfl
  obtain ⟨j, drawn', written⟩ := sound.family_owned stored
  have same : i = j := drawn_once reached drawn drawn'
  subst same
  exact absurd unwritten written

/-- No change removes a record, changes its core or revives it. -/
theorem persists (change : PoolChange liveReads calls t w i e w') {id : Uuid}
    {record : StoredRefreshToken} (stored : w.records id = some record) :
    ∃ record', w'.records id = some record' ∧ Later record record' := by
  cases change with
  | unchanged same => exact ⟨record, same ▸ stored, .refl record⟩
  | @inserted placed resp plan unused =>
      have unused_id := sound.fresh_id reached plan.drawn plan.unwritten
      have ne : id ≠ placed.id := by
        rintro rfl
        cases unused_id.symm.trans stored
      refine ⟨record, ?_, .refl record⟩
      rw [RefreshWorld.put_of_ne _ ne]
      exact stored
  | @rotated currentTokenId placed current now ipAddress userAgent _ _ _ _ _ _ presents plan
      current_stored live unused =>
      have unused_id := sound.fresh_id reached plan.drawn plan.unwritten
      have ne : id ≠ placed.id := by
        rintro rfl
        cases unused_id.symm.trans stored
      obtain rfl : current.id = currentTokenId := sound.keyed current_stored
      by_cases same : id = current.id
      · subst same
        cases current_stored.symm.trans stored
        exact ⟨_, rotate_current ne, superseded_later record placed.id now ipAddress userAgent⟩
      · refine ⟨record, ?_, .refl record⟩
        rw [rotate_other ne same]
        exact stored
  | restamped pointwise killed =>
      rcases pointwise.2 id with ⟨absent, -⟩ | ⟨_, record', before, after, restamped, -⟩
      · cases absent.symm.trans stored
      · cases before.symm.trans stored
        exact ⟨record', after, restamped.later⟩

/-- Every record after a change is a later version of one before, or was just placed. -/
theorem origin (change : PoolChange liveReads calls t w i e w') {id : Uuid}
    {record' : StoredRefreshToken} (after : w'.records id = some record') :
    (∃ record, w.records id = some record ∧ Later record record') ∨
      (Placement t i e record' ∧ record'.id = id ∧ w.HashFree record'.tokenHash) := by
  cases change with
  | unchanged same => exact .inl ⟨record', same ▸ after, .refl record'⟩
  | @inserted placed resp plan unused =>
      by_cases same : id = placed.id
      · subst same
        cases (RefreshWorld.put_self w placed).symm.trans after
        exact .inr ⟨plan.placement, rfl, unused⟩
      · rw [RefreshWorld.put_of_ne _ same] at after
        exact .inl ⟨record', after, .refl record'⟩
  | @rotated currentTokenId placed current now ipAddress userAgent _ _ _ _ _ _ presents plan
      current_stored live unused =>
      have unused_id := sound.fresh_id reached plan.drawn plan.unwritten
      obtain rfl : current.id = currentTokenId := sound.keyed current_stored
      by_cases same : id = placed.id
      · subst same
        cases rotate_replacement.symm.trans after
        exact .inr ⟨plan.placement, rfl, unused⟩
      · by_cases same_current : id = current.id
        · subst same_current
          cases (rotate_current same).symm.trans after
          exact .inl ⟨current, current_stored, superseded_later current placed.id now ipAddress
            userAgent⟩
        · rw [rotate_other same same_current] at after
          exact .inl ⟨record', after, .refl record'⟩
  | restamped pointwise killed =>
      rcases pointwise.2 id with ⟨-, absent⟩ | ⟨record, _, before, after', restamped, -⟩
      · cases absent.symm.trans after
      · cases after'.symm.trans after
        exact .inl ⟨record, before, restamped.later⟩

end Fresh

/-- Records shown by an answer are in the store it leaves. -/
theorem shown_of_effect (effect : RefreshEffect liveReads w e.op e.resp w')
    {token : StoredRefreshToken} (shown : token ∈ recordsOf e) :
    w'.records token.id = some token := by
  obtain ⟨op, resp⟩ := e
  cases op with
  | findRefreshTokenByHash tokenHash =>
      obtain ⟨rfl, answer⟩ := effect
      rcases resp with _ | _ | found
      · cases shown
      · cases shown
      · cases List.mem_singleton.mp shown
        exact answer.1
  | findLiveRefreshTokensInFamily sessionFamilyId =>
      obtain ⟨rfl, answer⟩ := effect
      rcases resp with _ | _ | tokens
      · cases shown
      · cases shown
      · exact ((answer.2.2 token).mp shown).1.1
  | _ => cases shown

theorem step (reached : RefreshReachable liveReads calls ⟨t, w⟩) (sound : Sound t w)
    (pool : PoolStep liveReads calls t w i e w') : Sound ((i, e) :: t) w' := by
  have change := pool.change
  constructor
  case keyed =>
    intro id record' after
    rcases sound.origin reached change after with ⟨record, before, later⟩ | ⟨-, key, -⟩
    · exact (later.field (·.id)).trans (sound.keyed before)
    · exact key
  case owned =>
    intro id record' after
    rcases sound.origin reached change after with ⟨record, before, -⟩ | ⟨placement, rfl, -⟩
    · obtain ⟨j, drawn, written⟩ := sound.owned before
      exact ⟨j, mem_of_cons drawn, writes_cons_ne_nil written⟩
    · exact ⟨i, mem_of_cons placement.drawn, placement.writes_ne_nil⟩
  case family_owned =>
    intro id record' after
    rcases sound.origin reached change after with ⟨record, before, later⟩ | ⟨placement, rfl, -⟩
    · obtain ⟨j, drawn, written⟩ := sound.family_owned before
      rw [later.field (·.sessionFamilyId)]
      exact ⟨j, mem_of_cons drawn, writes_cons_ne_nil written⟩
    · rcases placement.family with drawn | ⟨source, observed, same⟩
      · exact ⟨i, mem_of_cons drawn, placement.writes_ne_nil⟩
      · obtain ⟨record, before, later⟩ := sound.shown observed
        obtain ⟨j, drawn, written⟩ := sound.family_owned before
        rw [← same, ← later.field (·.sessionFamilyId)]
        exact ⟨j, mem_of_cons drawn, writes_cons_ne_nil written⟩
  case shown =>
    rintro j token ⟨e', mem, shown⟩
    rcases mem_of_cons_iff.mp mem with ⟨rfl, rfl⟩ | mem
    · exact ⟨token, shown_of_effect pool.effect shown, .refl token⟩
    · obtain ⟨record, before, later⟩ := sound.shown ⟨e', mem, shown⟩
      obtain ⟨record', after, later'⟩ := sound.persists reached change before
      exact ⟨record', after, later.trans later'⟩

end Sound

/-- Every reachable store is sound. -/
theorem sound_of_reachable {c : RefreshConfig liveReads ι}
    (reached : RefreshReachable liveReads calls c) : Sound c.trace c.state :=
  refresh_invariant Sound.init
    (fun reached sound pool => sound.step reached pool) reached

end Invariants

end AgqlAuth
