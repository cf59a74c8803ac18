import AgqlAuth.Refresh.Family

/-!
# The reuse-grace window

A window is measured from the presented record's own stamps.  While its family
lives nothing moves them, so what a call read of them is what is stored when it
commits; and a presentation outside the window ends the family.
-/

namespace AgqlAuth

open Interaction

variable {ι : Type} [DecidableEq ι]
variable {liveReads : Bool} {calls : RefreshPool ι} {t : RefreshTrace ι} {w w' : RefreshWorld}
variable {c : RefreshConfig liveReads ι} {i : ι} {e : AuthEvent}

/-- Reads tell the truth about hashes and about the support for live reads. -/
def Truthful (liveReads : Bool) (e : AuthEvent) : Prop :=
  (∀ tokenHash token, e = foundByHash tokenHash token → token.tokenHash = tokenHash) ∧
    ∀ fam tokens, e = readLive fam tokens → liveReads = true

theorem truthful_of_effect {op : AuthOp} {resp : AuthOp.Resp op}
    (effect : RefreshEffect liveReads w op resp w') : Truthful liveReads ⟨op, resp⟩ := by
  constructor
  · intro tokenHash token same
    cases same
    exact effect.2.2
  · intro fam tokens same
    cases same
    exact effect.2.1

theorem truthful (reached : RefreshReachable liveReads calls c) (mem : e ∈ c.trace.of i) :
    Truthful liveReads e :=
  reached.events (fun effect => truthful_of_effect effect) mem

/-- The unique index keeps token hashes apart. -/
def HashUnique (w : RefreshWorld) : Prop :=
  ∀ id id' record record', w.records id = some record → w.records id' = some record' →
    record.tokenHash = record'.tokenHash → id = id'

theorem hashUnique_of_reachable (reached : RefreshReachable liveReads calls c) :
    HashUnique c.state := by
  refine refresh_invariant (I := fun _ w => HashUnique w) ?_ ?_ reached
  · intro id id' record record' stored
    cases stored
  · intro t w w' i e reached unique pool id id' record record' after after' same
    have change := pool.change
    have sound := sound_of_reachable reached
    rcases sound.origin reached change after with ⟨before, stored, later⟩ | ⟨placed, key, unused⟩
    · rcases sound.origin reached change after' with ⟨before', stored', later'⟩ | ⟨-, -, unused'⟩
      · refine unique id id' before before' stored stored' ?_
        rw [← later.field (·.tokenHash), ← later'.field (·.tokenHash)]
        exact same
      · refine absurd ?_ (unused' id before stored)
        rw [← later.field (·.tokenHash)]
        exact same
    · rcases sound.origin reached change after' with
        ⟨before', stored', later'⟩ | ⟨placed', key', -⟩
      · refine absurd ?_ (unused id' before' stored')
        rw [← later'.field (·.tokenHash)]
        exact same.symm
      · cases placed.placed.symm.trans placed'.placed
        exact key.symm.trans key'

/-- Tokens a call resolved from one hash belong to one family. -/
theorem found_family (reached : RefreshReachable liveReads calls c) {tokenHash : String}
    {token token' : StoredRefreshToken} (found : foundByHash tokenHash token ∈ c.trace.of i)
    (found' : foundByHash tokenHash token' ∈ c.trace.of i) :
    token.sessionFamilyId = token'.sessionFamilyId := by
  have sound := sound_of_reachable reached
  obtain ⟨record, stored, later⟩ := sound.shown (observed_of_foundByHash found)
  obtain ⟨record', stored', later'⟩ := sound.shown (observed_of_foundByHash found')
  have hashed := (truthful reached found).1 tokenHash token rfl
  have hashed' := (truthful reached found').1 tokenHash token' rfl
  have same : record.tokenHash = record'.tokenHash := by
    rw [later.field (·.tokenHash), later'.field (·.tokenHash), hashed, hashed']
  have same_id := hashUnique_of_reachable reached _ _ _ _ stored stored' same
  rw [same_id] at stored
  cases stored.symm.trans stored'
  exact (later.field (·.sessionFamilyId)).symm.trans (later'.field (·.sessionFamilyId))

/-- What a call read of a revoked record is stored, as long as its family lives. -/
def StampsFollow (t : RefreshTrace ι) (w : RefreshWorld) : Prop :=
  ∀ {i token}, Observed (t.of i) token → token.revokedAt ≠ none →
    (∃ live, w.LiveIn token.sessionFamilyId live) →
      ∃ record, w.records token.id = some record ∧ SameStamps token record

theorem stampsFollow_of_reachable (withLiveReads : liveReads = true)
    (reached : RefreshReachable liveReads calls c) : StampsFollow c.trace c.state := by
  refine refresh_invariant (I := fun t w => StampsFollow t w) ?_ ?_ reached
  · rintro i token ⟨e, mem, -⟩
    cases mem
  · rintro t w w' i e reached follow pool j token ⟨e', mem, shown⟩ revoked alive
    have change := pool.change
    have sound := sound_of_reachable reached
    rcases mem_of_cons_iff.mp mem with ⟨rfl, rfl⟩ | mem
    · exact ⟨token, Sound.shown_of_effect pool.effect shown, rfl, rfl⟩
    · have observed : Observed (t.of j) token := ⟨e', mem, shown⟩
      obtain ⟨record, stored, later⟩ := sound.shown observed
      have family : record.sessionFamilyId = token.sessionFamilyId :=
        later.field (·.sessionFamilyId)
      have key : record.id = token.id := later.field (·.id)
      have alive_before : ∃ live, w.LiveIn token.sessionFamilyId live :=
        live_before reached change ⟨record, by rw [key]; exact stored, family⟩ alive
      obtain ⟨_, stored_, same⟩ := follow observed revoked alive_before
      cases stored.symm.trans stored_
      obtain ⟨record', after, -⟩ := sound.persists reached change stored
      have still : SameStamps record record' := by
        refine stamps_kept reached sound change withLiveReads stored after ?_ (.inr ?_)
        · rw [same.1]
          exact revoked
        · rw [family]
          exact alive
      exact ⟨record', after, still.1.trans same.1, still.2.trans same.2⟩

/-- Over any run a revoked record keeps its stamps while its family lives. -/
theorem stamps_kept_while_live {c' : RefreshConfig liveReads ι} (withLiveReads : liveReads = true)
    (reached : RefreshReachable liveReads calls c)
    (run : Steps (refreshStore liveReads) calls.program c c') {id : Uuid}
    {token : StoredRefreshToken} (stored : c.state.records id = some token)
    (revoked : token.revokedAt ≠ none)
    (alive : ∃ live, c'.state.LiveIn token.sessionFamilyId live) :
    ∃ token', c'.state.records id = some token' ∧ SameStamps token token' := by
  have kept : ∃ token', c'.state.records id = some token' ∧ Later token token' ∧
      ((∃ live, c'.state.LiveIn token.sessionFamilyId live) → SameStamps token token') := by
    refine Steps.invariant (I := fun c' : RefreshConfig liveReads ι =>
      ∃ token', c'.state.records id = some token' ∧ Later token token' ∧
        ((∃ live, c'.state.LiveIn token.sessionFamilyId live) → SameStamps token token'))
      ?_ reached ⟨token, stored, .refl token, fun _ => ⟨rfl, rfl⟩⟩ run
    rintro c₁ c₂ reached₁ ⟨token₁, stored₁, later₁, same₁⟩ edge
    obtain ⟨i, e, -, pool⟩ := refresh_step edge
    have change := pool.change
    have sound₁ := sound_of_reachable reached₁
    obtain ⟨token₂, stored₂, later₂⟩ := sound₁.persists reached₁ change stored₁
    refine ⟨token₂, stored₂, later₁.trans later₂, fun alive₂ => ?_⟩
    have family : token₁.sessionFamilyId = token.sessionFamilyId :=
      later₁.field (·.sessionFamilyId)
    have key : token₁.id = id := sound₁.keyed stored₁
    have alive₁ : ∃ live, c₁.state.LiveIn token.sessionFamilyId live :=
      live_before reached₁ change ⟨token₁, key ▸ stored₁, family⟩ alive₂
    have same := same₁ alive₁
    have still : SameStamps token₁ token₂ := by
      refine stamps_kept reached₁ sound₁ change withLiveReads stored₁ stored₂ ?_ (.inr ?_)
      · rw [same.1]
        exact revoked
      · rw [family]
        exact alive₂
    exact ⟨still.1.trans same.1, still.2.trans same.2⟩
  obtain ⟨token', stored', -, same⟩ := kept
  exact ⟨token', stored', same alive⟩

theorem supersededWithin_iff {token : StoredRefreshToken} {now : OffsetDateTime}
    {window : Duration} : supersededWithin token now window = true ↔
      ∃ revokedAt, token.revokedAt = some revokedAt ∧ token.replacedByTokenId ≠ none ∧
        token.isExpired now = false ∧ (now.since revokedAt).abs < window := by
  unfold supersededWithin
  cases token.revokedAt with
  | none => simp
  | some revokedAt => simp [Option.isSome_iff_ne_none, and_assoc]

/-- The window is decided by the stored stamps, not by a stale copy. -/
theorem reuse_within_window {c' : RefreshConfig liveReads ι} {currentTokenId : Uuid}
    {record source presented : StoredRefreshToken} {now : OffsetDateTime}
    {ipAddress userAgent : Option String}
    (reached : RefreshReachable liveReads calls c)
    (edge : Step (refreshStore liveReads) calls.program c c')
    (commit : c'.trace = (i, ⟨.rotateRefreshToken currentTokenId record now ipAddress userAgent,
      (.ok true : AuthResult Bool)⟩) :: c.trace)
    (resolved : (view (c.trace.of i)).presented = some source)
    (stored : c.state.records source.id = some presented)
    (revoked : presented.revokedAt ≠ none) :
    ∃ window, (calls i).1.refreshReuseGrace = some window ∧
      supersededWithin presented now window = true := by
  have sound := sound_of_reachable reached
  obtain ⟨j, e, extended, allowed, effect⟩ := refresh_step edge
  cases extended.symm.trans commit
  obtain ⟨_, _, _, newest, user, grant, -, plan⟩ := allowed
  cases plan.presented.symm.trans resolved
  obtain ⟨current, current_stored, live, -, -⟩ := effect
  have family := plan.current_family sound current_stored
  cases plan.target with
  | ordinary unrevoked unexpired =>
      cases stored.symm.trans current_stored
      exact absurd live revoked
  | @reuse head within snapshot replaceable =>
      obtain ⟨window, now', grace, clock, superseded⟩ := within
      cases plan.clock_read.symm.trans clock
      obtain ⟨revokedAt, stamp, link, unexpired, recent⟩ := supersededWithin_iff.mp superseded
      have withLiveReads := (truthful reached snapshot).2 _ _ rfl
      have observed := observed_of_foundByHash plan.found
      have key : current.id = head.id := sound.keyed current_stored
      have alive : ∃ live, c.state.LiveIn source.sessionFamilyId live :=
        ⟨current, ⟨key ▸ current_stored, family.trans plan.replacement.family⟩, live⟩
      obtain ⟨_, stored', same⟩ := stampsFollow_of_reachable withLiveReads reached observed
        (by simp [stamp]) alive
      cases stored.symm.trans stored'
      obtain ⟨_, stored'', later⟩ := sound.shown observed
      cases stored.symm.trans stored''
      refine ⟨window, grace, supersededWithin_iff.mpr ⟨revokedAt, ?_, ?_, ?_, recent⟩⟩
      · exact same.1.trans stamp
      · rw [same.2]
        exact link
      · rw [StoredRefreshToken.isExpired, later.field (·.expiresAt)]
        exact unexpired

/-- A call that ended with a family revocation left the family dead. -/
theorem family_revocation_kills (reached : RefreshReachable liveReads calls c)
    {early : AuthHistory} {source : StoredRefreshToken} (share : c.trace.of i = e :: early)
    (revokes : writeOf e = some (.familyRevoked source.sessionFamilyId))
    (observed : Observed early source) : Dead c.state source.sessionFamilyId := by
  refine refresh_invariant (I := fun t w => ∀ i e early, t.of i = e :: early →
    writeOf e = some (.familyRevoked source.sessionFamilyId) → Observed early source →
      Dead w source.sessionFamilyId) ?_ ?_ reached i e early share revokes observed
  · intro i e early share
    cases share
  · intro t w w' j e' reached dead pool i e early share revokes observed
    have change := pool.change
    have sound := sound_of_reachable reached
    by_cases same : j = i
    · subst same
      rw [Trace.of_cons_self] at share
      cases share
      obtain ⟨record, stored, later⟩ := sound.shown observed
      obtain ⟨record', after, later'⟩ := sound.persists reached change stored
      have family : record'.sessionFamilyId = source.sessionFamilyId :=
        (later.trans later').field (·.sessionFamilyId)
      have key : record'.id = source.id := (later.trans later').field (·.id)
      refine ⟨⟨record', by rw [key]; exact after, family⟩, ?_⟩
      rintro live ⟨⟨live_stored, live_family⟩, unrevoked⟩
      obtain ⟨revokedAt, pointwise⟩ : ∃ revokedAt,
          w.Pointwise (FamilyRevocation source.sessionFamilyId revokedAt) w' := by
        cases wrote_of_writeOf revokes with
        | familyRevoked _ revokedAt => exact ⟨revokedAt, pool.effect⟩
      rcases pointwise.2 live.id with ⟨-, absent⟩ | ⟨_, _, -, after', changed⟩
      · cases absent.symm.trans live_stored
      · cases after'.symm.trans live_stored
        exact changed.revoked live_family unrevoked
    · rw [Trace.of_cons_ne same] at share
      exact (dead i e early share revokes observed).change reached change

theorem not_withinGrace {svc : AuthService} {h : AuthHistory} {presented : StoredRefreshToken}
    {window : Duration} {now : OffsetDateTime} (grace : svc.refreshReuseGrace = some window)
    (clock : (view h).clock = some now) (outside : supersededWithin presented now window = false) :
    ¬ WithinGrace svc h presented := by
  rintro ⟨window', now', grace', clock', superseded⟩
  cases grace.symm.trans grace'
  cases clock.symm.trans clock'
  cases outside.symm.trans superseded

/-- Presenting a revoked token outside the window is a replay and ends its family. -/
theorem replay_outside_window (reached : RefreshReachable liveReads calls c)
    {result : RefreshCall.Result} {refreshToken : String} {window : Duration}
    {presented : StoredRefreshToken} {now : OffsetDateTime}
    (returned : Returned calls.program c i result)
    (presents : (calls i).2.presentedToken = some refreshToken)
    (grace : (calls i).1.refreshReuseGrace = some window)
    (known : (view (c.trace.of i)).presented = some presented)
    (revoked : presented.revokedAt ≠ none) (clock : (view (c.trace.of i)).clock = some now)
    (outside : supersededWithin presented now window = false)
    (no_store_errors : ∀ event ∈ c.trace.of i, refreshStoreOp event.op = true →
      errorOf event = none) :
    result = .error .refreshTokenReplayDetected ∧
      ∀ record, ¬ c.state.LiveIn presented.sessionFamilyId record := by
  have ended : callPost (calls i).1 (calls i).2 (c.trace.of i) result :=
    (RefreshCall.verified (calls i).1 (calls i).2).post_of_path returned
  have unentitled : ∀ {source : StoredRefreshToken},
      (view (c.trace.of i)).presented = some source →
        ¬ (source.revokedAt = none ∨ WithinGrace (calls i).1 (c.trace.of i) source) := by
    intro source known'
    cases known.symm.trans known'
    rintro (unrevoked | within)
    · exact revoked unrevoked
    · exact not_withinGrace grace clock outside within
  rcases result with e | _ | payload
  · cases ended refreshToken presents with
    | relayed mem asked reported unwritten =>
        cases (no_store_errors _ mem asked).symm.trans reported
    | unresolved unknown ordinary unwritten => cases known.symm.trans unknown
    | refused known' entitled failure unwritten => exact absurd entitled (unentitled known')
    | expired found known' unrevoked written => exact absurd (.inl unrevoked) (unentitled known')
    | @replayed source early event last revokes unwritten found latest =>
        refine ⟨rfl, ?_⟩
        have dead := family_revocation_kills reached last revokes (observed_of_foundByHash found)
        have same : presented.sessionFamilyId = source.sessionFamilyId := by
          have longer : ∀ {e}, e ∈ early → e ∈ c.trace.of i := fun mem => by
            rw [last]
            exact List.mem_cons_of_mem _ mem
          exact found_family reached (longer (latest presented known)) (longer found)
        rw [same]
        exact dead.revoked
  · cases presents.symm.trans ended
  · simp only [callPost, presents] at ended
    cases ended with
    | rotated known' entitled written delivered => exact absurd entitled (unentitled known')

/--
The reuse-grace window cannot be extended.  A rotation committed while the
presented record is revoked happens only if that record, as stored, was itself
superseded by a rotation, is unexpired and was revoked less than the configured
window away.  Over any run, a revoked record's stamps do not change while its
family has a live record.  And a call that found the presented record revoked
and outside the window, without an error of the refresh store, ends in a
detected replay with no unrevoked record left in the family.
-/
theorem reuse_grace_window_fixed (reached : RefreshReachable liveReads calls c) :
    (∀ c' i currentTokenId record now ipAddress userAgent source presented,
      Step (refreshStore liveReads) calls.program c c' →
      c'.trace = (i, ⟨.rotateRefreshToken currentTokenId record now ipAddress userAgent,
        (.ok true : AuthResult Bool)⟩) :: c.trace →
      (view (c.trace.of i)).presented = some source →
      c.state.records source.id = some presented → presented.revokedAt ≠ none →
      ∃ window revokedAt, (calls i).1.refreshReuseGrace = some window ∧
        presented.revokedAt = some revokedAt ∧ presented.replacedByTokenId ≠ none ∧
        presented.isExpired now = false ∧ (now.since revokedAt).abs < window) ∧
    (liveReads = true → ∀ c' id token, Steps (refreshStore liveReads) calls.program c c' →
      c.state.records id = some token → token.revokedAt ≠ none →
      (∃ live, c'.state.LiveIn token.sessionFamilyId live) →
      ∃ token', c'.state.records id = some token' ∧ SameStamps token token') ∧
    ∀ i result refreshToken window presented now,
      Returned calls.program c i result → (calls i).2.presentedToken = some refreshToken →
      (calls i).1.refreshReuseGrace = some window →
      (view (c.trace.of i)).presented = some presented → presented.revokedAt ≠ none →
      (view (c.trace.of i)).clock = some now → supersededWithin presented now window = false →
      (∀ event ∈ c.trace.of i, refreshStoreOp event.op = true → errorOf event = none) →
      result = .error .refreshTokenReplayDetected ∧
        ∀ record, ¬ c.state.LiveIn presented.sessionFamilyId record := by
  refine ⟨?_, ?_, ?_⟩
  · intro c' i currentTokenId record now ipAddress userAgent source presented edge commit resolved
      stored revoked
    obtain ⟨window, grace, superseded⟩ :=
      reuse_within_window reached edge commit resolved stored revoked
    obtain ⟨revokedAt, stamp, link, unexpired, recent⟩ := supersededWithin_iff.mp superseded
    exact ⟨window, revokedAt, grace, stamp, link, unexpired, recent⟩
  · intro withLiveReads c' id token run stored revoked alive
    exact stamps_kept_while_live withLiveReads reached run stored revoked alive
  · intro i result refreshToken window presented now returned presents grace known revoked clock
      outside no_store_errors
    exact replay_outside_window reached returned presents grace known revoked clock outside
      no_store_errors

/-- The signed-out token was never superseded, so presenting it is a replay. -/
theorem signed_out_token_replayed :
    Returned sampleCalls.program (sampleRun [0, 4, 5]).config 5 (.error .refreshTokenReplayDetected) ∧
      ∀ record, ¬ (sampleRun [0, 4, 5]).config.state.LiveIn sampleFamily record := by
  have returned : Returned sampleCalls.program (sampleRun [0, 4, 5]).config 5
      (.error .refreshTokenReplayDetected) := Running.returned_of_result? rfl
  have silent : ((sampleRun [0, 4, 5]).trace.of 5).all (fun event => (errorOf event).isNone) =
      true := rfl
  obtain ⟨presented, now, known, clock, revoked, outside, family⟩ : ∃ presented now,
      (view ((sampleRun [0, 4, 5]).trace.of 5)).presented = some presented ∧
      (view ((sampleRun [0, 4, 5]).trace.of 5)).clock = some now ∧ presented.revokedAt ≠ none ∧
      supersededWithin presented now (.seconds 10) = false ∧
      presented.sessionFamilyId = sampleFamily := ⟨_, _, rfl, rfl, Option.some_ne_none _, rfl, rfl⟩
  refine ⟨returned, family ▸ ((reuse_grace_window_fixed (sampleRun [0, 4, 5]).reached).2.2 5 _
    "xxx" _ presented now returned rfl rfl known revoked clock outside ?_).2⟩
  intro event mem _
  exact Option.isNone_iff_eq_none.mp (List.all_eq_true.mp silent event mem)

end AgqlAuth
