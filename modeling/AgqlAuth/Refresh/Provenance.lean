import AgqlAuth.Refresh.Family

/-!
# Provenance of a record

The parent of a record is the token that was presented to obtain it.  On a
reuse that is not the record it replaced, so the presentation tree and the
replacement chain differ; the session context follows the tree.
-/

namespace AgqlAuth

open Interaction

variable {ι : Type} [DecidableEq ι]

/-- What all records of a session family share. -/
structure SessionIdentity where
  sessionId : Uuid
  sessionFamilyId : Uuid
  userId : String
  grantSource : RefreshGrantSource
  refreshableMetadata : Option RefreshableTokenMetadata

def StoredRefreshToken.identity (self : StoredRefreshToken) : SessionIdentity where
  sessionId := self.sessionId
  sessionFamilyId := self.sessionFamilyId
  userId := self.userId
  grantSource := self.grantSource
  refreshableMetadata := self.refreshableMetadata

/-- The user store answers with the user it was asked for. -/
def HonestUsers (t : RefreshTrace ι) : Prop :=
  ∀ i userId user, readUser userId user ∈ t.of i → user.id = userId

section Identity

variable {liveReads : Bool} {calls : RefreshPool ι} {t : RefreshTrace ι} {w : RefreshWorld}
variable {c : RefreshConfig liveReads ι} {i : ι} {e : AuthEvent}

theorem HonestUsers.tail (honest : HonestUsers ((i, e) :: t)) : HonestUsers t :=
  fun j userId user mem => honest j userId user (mem_of_cons mem)

/-- No record stores default metadata. -/
theorem metadata_normal (reached : RefreshReachable liveReads calls c) {id : Uuid}
    {record : StoredRefreshToken} (stored : c.state.records id = some record) :
    record.refreshableMetadata ≠ some {} := by
  revert stored
  refine refresh_invariant (I := fun _ w => ∀ {id record}, w.records id = some record →
    record.refreshableMetadata ≠ some {}) nofun ?_ reached
  intro t w w' i e reached normal pool id record' after
  have sound := sound_of_reachable reached
  rcases sound.origin reached pool.change after with ⟨record, before, later⟩ | ⟨placement, -, -⟩
  · rw [later.field (·.refreshableMetadata)]
    exact normal before
  · exact placement.metadata

/-- A replacement has the identity of the token it was exchanged for. -/
theorem Extension.identity_eq {fam : Uuid} {current record : StoredRefreshToken}
    {now : OffsetDateTime} (reached : RefreshReachable liveReads calls ⟨t, w⟩)
    (honest : HonestUsers t)
    (extension : Extension (calls i).1 (calls i).2 (t.of i) w fam current record now) :
    ∃ source, w.InFamily fam source ∧ record.identity = source.identity := by
  have sound := sound_of_reachable reached
  obtain ⟨_, _, source, _, user, _, -, plan⟩ := extension.planned
  obtain ⟨stored, is_stored, later⟩ := sound.shown (observed_of_foundByHash plan.found)
  have replacement := plan.replacement
  have key : stored.id = source.id := later.field (·.id)
  have same : stored.identity = source.identity := later.field (·.identity)
  have metadata : source.refreshableMetadata ≠ some {} := by
    rw [← later.field (·.refreshableMetadata)]
    exact metadata_normal reached is_stored
  have kept : record.refreshableMetadata = source.refreshableMetadata := by
    rw [replacement.metadata]
    cases recorded : source.refreshableMetadata with
    | none => rfl
    | some value =>
        rw [recorded] at metadata
        exact Option.filter_some_pos (by simpa using metadata)
  have family : stored.sessionFamilyId = fam :=
    ((later.field (·.sessionFamilyId)).trans replacement.family.symm).trans extension.family
  refine ⟨stored, ⟨by rw [key]; exact is_stored, family⟩, ?_⟩
  rw [same]
  unfold StoredRefreshToken.identity
  rw [replacement.sessionId, replacement.family, replacement.userId, replacement.grantSource, kept,
    honest i source.userId user plan.user_read]

/-- All records of a family have one identity. -/
theorem family_identity (reached : RefreshReachable liveReads calls c)
    (honest : HonestUsers c.trace) {fam : Uuid} {record record' : StoredRefreshToken}
    (stored : c.state.InFamily fam record) (stored' : c.state.InFamily fam record') :
    record.identity = record'.identity := by
  revert honest record record'
  refine refresh_invariant (I := fun t w => HonestUsers t → ∀ {record record'},
    w.InFamily fam record → w.InFamily fam record' → record.identity = record'.identity)
    ?_ ?_ reached
  · rintro - record record' ⟨stored, -⟩
    cases stored
  · intro t w w' i e reached same pool honest record record' stored stored'
    have change := pool.change
    have sound := sound_of_reachable reached
    have same := @same honest.tail
    cases familyChange reached sound change fam with
    | steady steady =>
        obtain ⟨before, was_stored, restamped⟩ := steady.backward stored.1 stored.2
        obtain ⟨before', was_stored', restamped'⟩ := steady.backward stored'.1 stored'.2
        have later := restamped.later
        have later' := restamped'.later
        rw [later.field (·.identity), later'.field (·.identity)]
        refine same ⟨?_, ?_⟩ ⟨?_, ?_⟩
        · rw [← later.field (·.id)]
          exact was_stored
        · exact (later.field (·.sessionFamilyId)).symm.trans stored.2
        · rw [← later'.field (·.id)]
          exact was_stored'
        · exact (later'.field (·.sessionFamilyId)).symm.trans stored'.2
    | @opened placed resp plan unused family first =>
        have only : ∀ {other : StoredRefreshToken}, (w.put placed).InFamily fam other →
            other = placed := by
          rintro other ⟨other_stored, other_family⟩
          by_cases eq : other.id = placed.id
          · rw [eq, RefreshWorld.put_self] at other_stored
            exact (Option.some.inj other_stored).symm
          · rw [RefreshWorld.put_of_ne _ eq] at other_stored
            exact absurd other_family (first _ _ other_stored)
        rw [only stored, only stored']
    | @extended current placed now ipAddress userAgent extension =>
        obtain ⟨source, source_in, source_same⟩ := extension.identity_eq reached honest.tail
        have all : ∀ {other : StoredRefreshToken},
            (w.rotate current placed now ipAddress userAgent).InFamily fam other →
              other.identity = source.identity := by
          rintro other ⟨other_stored, other_family⟩
          rcases sound.origin reached change other_stored with
            ⟨before, was_stored, later⟩ | ⟨placement, -, -⟩
          · rw [later.field (·.identity)]
            refine same ⟨?_, ?_⟩ source_in
            · rw [← later.field (·.id)]
              exact was_stored
            · exact (later.field (·.sessionFamilyId)).symm.trans other_family
          · cases placement.placed
            exact source_same
        rw [all stored, all stored']

end Identity

/-- A context with the assurance of the nearest step-up, if there was one. -/
def contextAfter (issued : SessionContext) : Option SessionAssurance → SessionContext
  | none => issued
  | some assurance => issued.withAssurance assurance

/--
`Descends calls t id issued stepUp`: following presentations back from record
`id` leads to a session issued with context `issued`, and `stepUp` is the
assurance of the nearest step-up on that path.
-/
inductive Descends (calls : RefreshPool ι) (t : RefreshTrace ι) :
    Uuid → SessionContext → Option SessionAssurance → Prop where
  | issued {i : ι} {e : AuthEvent} {record : StoredRefreshToken} {context : SessionContext}
      (mem : e ∈ t.of i) (inserted : writeOf e = some (.inserted record))
      (opened : (calls i).2.issuanceContext = some context) :
      Descends calls t record.id context none
  | presented {i : ι} {e : AuthEvent} {late early : AuthHistory} {currentTokenId : Uuid}
      {record source : StoredRefreshToken} {refreshToken : String}
      {assuranceOverride stepUp : Option SessionAssurance} {context : SessionContext}
      (share : t.of i = late ++ e :: early)
      (rotated : writeOf e = some (.rotated currentTokenId record))
      (resolved : (view early).presented = some source)
      (presents : (calls i).2.Presents early refreshToken assuranceOverride)
      (parent : Descends calls t source.id context stepUp) :
      Descends calls t record.id context (assuranceOverride.or stepUp)

section Provenance

variable {liveReads : Bool} {calls : RefreshPool ι} {t : RefreshTrace ι} {w : RefreshWorld}
variable {c : RefreshConfig liveReads ι} {i : ι} {e : AuthEvent}

theorem Descends.cons {id : Uuid} {context : SessionContext} {stepUp : Option SessionAssurance}
    (descends : Descends calls t id context stepUp) :
    Descends calls ((i, e) :: t) id context stepUp := by
  induction descends with
  | issued mem inserted opened => exact .issued (mem_of_cons mem) inserted opened
  | @presented j e' late early _ _ _ _ _ _ _ share rotated resolved presents parent ih =>
      by_cases same : i = j
      · subst same
        have share' : Trace.of i ((i, e) :: t) = (e :: late) ++ e' :: early := by
          rw [Trace.of_cons_self, share, List.cons_append]
        exact .presented share' rotated resolved presents ih
      · have share' : Trace.of j ((i, e) :: t) = late ++ e' :: early := by
          rw [Trace.of_cons_ne same, share]
        exact .presented share' rotated resolved presents ih

/-- The record a call commits descends from the one it presented. -/
theorem Descends.of_commit {currentTokenId : Uuid} {record source : StoredRefreshToken}
    {refreshToken : String} {assuranceOverride stepUp : Option SessionAssurance}
    {context : SessionContext} (rotated : writeOf e = some (.rotated currentTokenId record))
    (resolved : (view (t.of i)).presented = some source)
    (presents : (calls i).2.Presents (t.of i) refreshToken assuranceOverride)
    (parent : Descends calls ((i, e) :: t) source.id context stepUp) :
    Descends calls ((i, e) :: t) record.id context (assuranceOverride.or stepUp) := by
  have share : Trace.of i ((i, e) :: t) = [] ++ e :: t.of i := Trace.of_cons_self i e t
  exact .presented share rotated resolved presents parent

/-- Every stored record descends from an issued session. -/
theorem stored_descends (reached : RefreshReachable liveReads calls c) {id : Uuid}
    {record : StoredRefreshToken} (stored : c.state.records id = some record) :
    ∃ context stepUp, Descends calls c.trace id context stepUp := by
  revert stored
  refine refresh_invariant (I := fun t w => ∀ {id record}, w.records id = some record →
    ∃ context stepUp, Descends calls t id context stepUp) nofun ?_ reached
  intro t w w' i e reached descend pool id record' after
  have change := pool.change
  have sound := sound_of_reachable reached
  have old : ∀ {id record}, w.records id = some record →
      ∃ context stepUp, Descends calls ((i, e) :: t) id context stepUp := by
    intro id record before
    obtain ⟨context, stepUp, descends⟩ := descend before
    exact ⟨context, stepUp, descends.cons⟩
  rcases sound.origin reached change after with ⟨record, before, -⟩ | ⟨placement, rfl, -⟩
  · exact old before
  · cases change with
    | unchanged same =>
        rw [same] at after
        exact old after
    | inserted plan _ =>
        cases placement.placed
        exact ⟨_, none, .issued (mem_of_cons_iff.mpr (.inl ⟨rfl, rfl⟩)) rfl plan.context⟩
    | rotated presents plan _ _ _ =>
        cases placement.placed
        obtain ⟨_, stored, -⟩ := sound.shown (observed_of_foundByHash plan.found)
        obtain ⟨context, stepUp, parent⟩ := old stored
        exact ⟨context, _, .of_commit rfl plan.presented presents parent⟩
    | restamped pointwise killed =>
        rcases pointwise.2 record'.id with ⟨-, absent⟩ | ⟨_, _, before, -, -⟩
        · cases absent.symm.trans after
        · exact old before

/-- A call that places a record has drawn its identifier and written nothing before. -/
theorem PoolStep.placement {w' : RefreshWorld} {placed : StoredRefreshToken}
    (pool : PoolStep liveReads calls t w i e w') (places : placedBy e = some placed) :
    Placement t i e placed := by
  obtain ⟨allowed, -⟩ := pool
  cases places_of_placedBy places with
  | inserted => exact SessionPlan.placement allowed
  | rotated =>
      obtain ⟨_, _, _, _, _, _, -, plan⟩ := allowed
      exact plan.placement

theorem writes_of_placedBy {h : AuthHistory} {placed : StoredRefreshToken} (mem : e ∈ h)
    (places : placedBy e = some placed) : writes h ≠ [] := by
  intro unwritten
  have silent : writeOf e = none := List.filterMap_eq_nil_iff.mp unwritten e mem
  rw [placedBy, silent] at places
  cases places

/-- The record stored under an identifier is the one placed there. -/
theorem placed_stored (reached : RefreshReachable liveReads calls c) {placed record : StoredRefreshToken}
    (mem : e ∈ c.trace.of i) (places : placedBy e = some placed)
    (stored : c.state.records placed.id = some record) : Later placed record := by
  have known : drew placed.id ∈ c.trace.of i ∧ ∀ record,
      c.state.records placed.id = some record → Later placed record := by
    clear stored
    revert i e placed
    refine refresh_invariant (I := fun t w => ∀ {i e placed}, e ∈ t.of i →
      placedBy e = some placed → drew placed.id ∈ t.of i ∧ ∀ record,
        w.records placed.id = some record → Later placed record) ?_ ?_ reached
    · intro i e placed mem
      cases mem
    · intro t w w' j e' reached known pool i e placed mem places
      have sound := sound_of_reachable reached
      rcases mem_of_cons_iff.mp mem with ⟨rfl, rfl⟩ | old
      · have placement := pool.placement places
        have unused := sound.fresh_id reached placement.drawn placement.unwritten
        refine ⟨mem_of_cons placement.drawn, fun record after => ?_⟩
        rcases sound.origin reached pool.change after with ⟨_, before, -⟩ | ⟨placement', -, -⟩
        · cases unused.symm.trans before
        · cases places.symm.trans placement'.placed
          exact .refl placed
      · obtain ⟨drawn, later⟩ := known old places
        refine ⟨mem_of_cons drawn, fun record after => ?_⟩
        rcases sound.origin reached pool.change after with
          ⟨before, was_stored, later'⟩ | ⟨placement', key, -⟩
        · exact (later before was_stored).trans later'
        · have drawn' := placement'.drawn
          rw [key] at drawn'
          have same : i = j := drawn_once reached drawn drawn'
          subst same
          exact absurd placement'.unwritten (writes_of_placedBy old places)
  exact known.2 record stored

theorem contextAfter_or (issued : SessionContext)
    (assuranceOverride stepUp : Option SessionAssurance) :
    contextAfter issued (assuranceOverride.or stepUp) =
      match assuranceOverride with
      | none => contextAfter issued stepUp
      | some assurance => (contextAfter issued stepUp).withAssurance assurance := by
  cases assuranceOverride <;> cases stepUp <;> rfl

/-- The session context of a record is decided by its presentation path. -/
theorem session_of_descends (reached : RefreshReachable liveReads calls c) {id : Uuid}
    {context : SessionContext} {stepUp : Option SessionAssurance}
    (descends : Descends calls c.trace id context stepUp) {record : StoredRefreshToken}
    (stored : c.state.records id = some record) : record.session = contextAfter context stepUp := by
  induction descends generalizing record with
  | @issued i e placed context mem inserted opened =>
      have places : placedBy e = some placed := by rw [placedBy, inserted]
      have later := placed_stored reached mem places stored
      obtain ⟨late, early, share⟩ := List.mem_iff_append.mp mem
      have allowed := issued_allowed reached share
      cases wrote_of_writeOf inserted
      have plan : SessionPlan (calls i).2 early placed := allowed
      rw [later.field (·.session)]
      exact Option.some.inj (plan.context.symm.trans opened)
  | @presented i e late early currentTokenId placed source refreshToken assuranceOverride stepUp
      context share rotated resolved presents parent ih =>
      have places : placedBy e = some placed := by rw [placedBy, rotated]
      have mem : e ∈ c.trace.of i := by simp [share]
      have later := placed_stored reached mem places stored
      have allowed := issued_allowed reached share
      cases wrote_of_writeOf rotated
      obtain ⟨_, _, _, newest, user, grant, presents', plan⟩ := allowed
      cases presents.unique presents'
      cases plan.presented.symm.trans resolved
      have observed : Observed (c.trace.of i) source := by
        rw [share]
        exact observed_of_foundByHash
          (List.mem_append_right late (List.mem_cons_of_mem _ plan.found))
      obtain ⟨source', source_stored, source_later⟩ := (sound_of_reachable reached).shown observed
      have source_session : source.session = contextAfter context stepUp := by
        rw [← ih source_stored]
        exact (source_later.field (·.session)).symm
      rw [later.field (·.session), plan.replacement.session, contextAfter_or, ← source_session]
      rfl

/--
Step-up assurance follows the presented token.  Every stored record descends
from an issued session, and along every presentation path its context is the
one at issuance with assurance and MFA state of the nearest step-up, so without
a step-up on the path it is the context at issuance.  All records of a family
share their session, family, user, grant source and refreshable metadata.
-/
theorem assurance_follows_presented_token (reached : RefreshReachable liveReads calls c)
    (honest : HonestUsers c.trace) :
    (∀ id record, c.state.records id = some record →
      (∃ context stepUp, Descends calls c.trace id context stepUp) ∧
      (∀ context stepUp, Descends calls c.trace id context stepUp →
        record.session = contextAfter context stepUp) ∧
      ∀ context, Descends calls c.trace id context none →
        record.session.assurance = context.assurance ∧ record.session.mfa = context.mfa) ∧
    ∀ fam record record', c.state.InFamily fam record → c.state.InFamily fam record' →
      record.sessionId = record'.sessionId ∧
        record.sessionFamilyId = record'.sessionFamilyId ∧ record.userId = record'.userId ∧
        record.grantSource = record'.grantSource ∧
        record.refreshableMetadata = record'.refreshableMetadata := by
  constructor
  · intro id record stored
    refine ⟨stored_descends reached stored, ?_, ?_⟩
    · intro context stepUp descends
      exact session_of_descends reached descends stored
    · intro context descends
      rw [session_of_descends reached descends stored]
      exact ⟨rfl, rfl⟩
  · intro fam record record' stored stored'
    have same := family_identity reached honest stored stored'
    exact ⟨congrArg SessionIdentity.sessionId same, congrArg SessionIdentity.sessionFamilyId same,
      congrArg SessionIdentity.userId same, congrArg SessionIdentity.grantSource same,
      congrArg SessionIdentity.refreshableMetadata same⟩

/-- Whether the user store answered with the user it was asked for. -/
def honestAnswer : AuthEvent → Bool
  | ⟨.findUserById userId, (.ok (some user) : AuthResult (Option StoredUser))⟩ => user.id = userId
  | _ => true

theorem honestUsers_of_all {t : RefreshTrace ι}
    (answers : t.all (fun event => honestAnswer event.2) = true) : HonestUsers t := by
  intro i userId user mem
  have answered := List.all_eq_true.mp answers _ (Trace.mem_of.mp mem)
  exact of_decide_eq_true answered

/-- Only the step-up of the sample run has assurance, though it reused an older token. -/
theorem reuse_assurance_follows_presented :
    (sampleRun [0, 1, 2, 3]).memory.store.tokens.map (·.session.assurance.isSome) =
        [true, false, false, false] ∧
      ∀ id record, (sampleRun [0, 1, 2, 3]).config.state.records id = some record →
        ∃ context stepUp,
          Descends sampleCalls (sampleRun [0, 1, 2, 3]).config.trace id context stepUp := by
  refine ⟨rfl, fun id record stored => ?_⟩
  exact ((assurance_follows_presented_token (sampleRun [0, 1, 2, 3]).reached
    (honestUsers_of_all rfl)).1 id record stored).1

end Provenance

end AgqlAuth
