import AgqlAuth.RateLimit.MemoryStore

/-!
# No update of a counter is lost
-/

namespace AgqlAuth

open Interaction

variable {ι : Type} [DecidableEq ι]

/-- The state an attempt computes from `current`, by its committer's policy and clock. -/
def RateLimitAttempt.next (a : RateLimitAttempt) (key : AuthRateLimitKey)
    (current : Option AuthRateLimitState) : Option AuthRateLimitState :=
  a.clock.bind fun now => (nextRateLimitState key current a.policy now).toOption

/-- All attempts in commit order, starting from absence. -/
def foldAttempts (key : AuthRateLimitKey) (attempts : List RateLimitAttempt) :
    Option AuthRateLimitState :=
  attempts.foldr (fun a current => a.next key current) none

/--
The attempts since the key was last absent: a commit that expected no revision
found the key absent, and one that expected a revision found it present.
-/
def sinceAbsent : List RateLimitAttempt → List RateLimitAttempt
  | [] => []
  | a :: older => if a.expectedRevision = none then [a] else a :: sinceAbsent older

/-- An attempt made on an absent key starts over. -/
theorem RateLimitAttempt.Computed.sinceAbsent_eq {a : RateLimitAttempt} {key : AuthRateLimitKey}
    {now : OffsetDateTime} (computed : a.Computed key none now) (older : List RateLimitAttempt) :
    sinceAbsent (a :: older) = [a] :=
  if_pos computed.expected

theorem RateLimitAttempt.Computed.next_eq {a : RateLimitAttempt} {key : AuthRateLimitKey}
    {current : Option AuthRateLimitSnapshot} {now : OffsetDateTime}
    (computed : a.Computed key current now) :
    a.next key (current.map (·.state)) = some a.snapshot.state := by
  unfold RateLimitAttempt.next
  rw [computed.clock, Option.bind_some, computed.computed]
  rfl

theorem Lineage.fold {key : AuthRateLimitKey} {a : RateLimitAttempt}
    {older : List RateLimitAttempt} (lineage : Lineage key (a :: older)) :
    foldAttempts key (sinceAbsent (a :: older)) = some a.snapshot.state := by
  induction older generalizing a with
  | nil =>
      cases lineage with
      | opened computed _ =>
          rw [computed.sinceAbsent_eq]
          exact computed.next_eq
  | cons b older ih =>
      cases lineage with
      | opened computed _ =>
          rw [computed.sinceAbsent_eq]
          exact computed.next_eq
      | extended computed lineage =>
          have present : a.expectedRevision ≠ none := by
            rw [computed.expected]
            exact Option.some_ne_none _
          rw [sinceAbsent, if_neg present]
          calc foldAttempts key (a :: sinceAbsent (b :: older))
              = a.next key (foldAttempts key (sinceAbsent (b :: older))) := rfl
            _ = a.next key (some b.snapshot.state) := by rw [ih lineage]
            _ = some a.snapshot.state := computed.next_eq

/-- The two buckets of a flow never share a key. -/
theorem rateLimitKeys_nodup (svc : AuthService) (flow : AuthRateLimitFlow)
    (principal : Option String) (metadata : ClientMetadata) :
    (svc.rateLimitKeys flow principal metadata).Nodup := by
  unfold AuthService.rateLimitKeys
  cases principal.bind normalizePrincipalBucket <;>
    cases metadata.ipAddress.bind normalizeClientBucket <;>
    simp [AuthService.rateLimitKey]

theorem RateLimitCall.keys_nodup (svc : AuthService) (call : RateLimitCall) :
    (call.keys svc).Nodup := by
  unfold RateLimitCall.keys countedKeys
  split
  · cases call with
    | recordFailure flow principal metadata => exact rateLimitKeys_nodup svc flow principal metadata
    | passwordResetRequest principal metadata =>
        exact rateLimitKeys_nodup svc .passwordResetRequest (some principal) metadata
    | loginCodeRequest principal metadata =>
        exact rateLimitKeys_nodup svc .loginCodeRequest (some principal) metadata
    | credential flow principal metadata check =>
        exact rateLimitKeys_nodup svc flow principal metadata
    | login principal password metadata =>
        exact rateLimitKeys_nodup svc .passwordLogin (some principal) metadata
  · exact List.nodup_nil

/-- The updates of `key` a call has committed. -/
def commitsOn (h : AuthHistory) (key : AuthRateLimitKey) : Nat := (committedKeys h).count key

/-- Every key in `done` was counted once, and no other key was counted. -/
def CountedOnce (done : List AuthRateLimitKey) (h : AuthHistory) : Prop :=
  ∀ key, commitsOn h key = if key ∈ done then 1 else 0

theorem countedOnce {done : List AuthRateLimitKey} {h : AuthHistory} (nodup : done.Nodup)
    (counted : committedKeys h = done) : CountedOnce done h := by
  intro key
  rw [commitsOn, counted]
  exact nodup.count

/-- Counting stopped at a key: the keys before it were counted, it was not. -/
def CountedUpTo (keys : List AuthRateLimitKey) (h : AuthHistory) : Prop :=
  ∃ done key rest, keys = done ++ key :: rest ∧ key ∉ done ∧ CountedOnce done h

theorem StoppedAt.countedUpTo {keys : List AuthRateLimitKey} {h : AuthHistory}
    (stopped : StoppedAt [] keys h) (nodup : keys.Nodup) : CountedUpTo keys h := by
  obtain ⟨done, key, rest, rfl, counted⟩ := stopped
  obtain ⟨nodup_done, -, apart⟩ := List.nodup_append.mp nodup
  refine ⟨done, key, rest, rfl, ?_, countedOnce nodup_done counted⟩
  intro mem
  exact apart key mem key List.mem_cons_self rfl

/--
What a result says about the updates its call committed on its keys.  A
recording call that fails or is denied stopped at a key it did not count; a
credential flow can also fail before it records, and a login after it.
-/
def Accounted (svc : AuthService) (call : RateLimitCall) (h : AuthHistory) :
    AuthResult RateLimitReport → Prop
  | .ok .recorded => CountedOnce (call.keys svc) h
  | .ok .denied => CountedUpTo (call.keys svc) h
  | .ok .cleared => CountedOnce [] h
  | .error _ =>
      match call with
      | .recordFailure .. | .passwordResetRequest .. | .loginCodeRequest .. =>
          CountedUpTo (call.keys svc) h
      | .credential .. => CountedOnce [] h ∨ CountedUpTo (call.keys svc) h
      | .login .. => CountedOnce [] h ∨ CountedUpTo (call.keys svc) h ∨
          CountedOnce (call.keys svc) h

theorem accounted_of_post {svc : AuthService} {call : RateLimitCall} {h : AuthHistory}
    {result : AuthResult RateLimitReport} (ended : rateLimitPost svc call h result) :
    Accounted svc call h result := by
  have nodup := call.keys_nodup svc
  rcases result with e | report
  · cases call with
    | recordFailure flow principal metadata => exact StoppedAt.countedUpTo ended nodup
    | passwordResetRequest principal metadata => exact StoppedAt.countedUpTo ended nodup
    | loginCodeRequest principal metadata => exact StoppedAt.countedUpTo ended nodup
    | credential flow principal metadata check =>
        rcases ended with uncounted | stopped
        · exact .inl (countedOnce List.nodup_nil uncounted)
        · exact .inr (stopped.countedUpTo nodup)
    | login principal password metadata =>
        rcases ended with uncounted | stopped | counted
        · exact .inl (countedOnce List.nodup_nil uncounted)
        · exact .inr (.inl (stopped.countedUpTo nodup))
        · exact .inr (.inr (countedOnce nodup counted))
  · cases report with
    | recorded => exact countedOnce nodup ended
    | denied => exact StoppedAt.countedUpTo ended nodup
    | cleared => exact countedOnce List.nodup_nil ended

section Clear

variable {calls : RateLimitPool ι} {c c' : RateLimitConfig ι} {i : ι} {key : AuthRateLimitKey}

/-- A snapshot that is still stored is the newest one ever since it was observed. -/
theorem attempts_since_observed (reached : RateLimitReachable calls c)
    {since before : RateLimitTrace ι} {snapshot : AuthRateLimitSnapshot}
    (share : c.trace = since ++ (i, observedState key (some snapshot)) :: before)
    (present : c.state.states key = some snapshot) :
    calls.attempts key c.trace = calls.attempts key before := by
  obtain ⟨w, w', reached_before, -, effect, -⟩ := reached.split share
  have present_before : RateLimitWorld.states w key = some snapshot :=
    RateLimitEffect.observed effect rfl
  obtain ⟨old, old_head, old_snapshot⟩ := Option.map_eq_some_iff.mp
    ((rateLimitSound_of_reachable reached_before).stored present_before)
  have sound := rateLimitSound_of_reachable reached
  obtain ⟨new, new_head, new_snapshot⟩ := Option.map_eq_some_iff.mp (sound.stored present)
  have observed : calls.attempts key ((i, observedState key (some snapshot)) :: before) =
      calls.attempts key before := attempts_uncommitted rfl
  obtain ⟨newer, extended⟩ := attempts_append calls key since
    ((i, observedState key (some snapshot)) :: before)
  rw [← share, observed] at extended
  cases newer with
  | nil => exact extended
  | cons newest newer =>
      have revised := sound.revised key
      rw [extended] at revised new_head
      cases new_head
      have repeated : new.snapshot.revision ∈
          (newer ++ calls.attempts key before).map (·.snapshot.revision) := by
        rw [new_snapshot, ← old_snapshot]
        exact List.mem_map_of_mem (List.mem_append_right newer (List.mem_of_head? old_head))
      exact absurd repeated (List.nodup_cons.mp revised).1

/-- A clear that succeeds removes the snapshot its own call observed. -/
theorem clear_removes_observed (reached : RateLimitReachable calls c) {revision : Uuid}
    (edge : Step rateLimitStore calls.program c c')
    (cleared : c'.trace = (i, clearedState key (some revision)) :: c.trace) :
    ∃ since before snapshot,
      c.trace = since ++ (i, observedState key (some snapshot)) :: before ∧
      c.state.states key = some snapshot ∧ snapshot.revision = revision ∧
      calls.attempts key c.trace = calls.attempts key before := by
  obtain ⟨t, w⟩ := c
  obtain ⟨t', w'⟩ := c'
  cases cleared
  obtain ⟨⟨current, observed, expected⟩, effect⟩ := rateLimit_step edge
  obtain ⟨snapshot, rfl, same⟩ := Option.map_eq_some_iff.mp expected.symm
  obtain ⟨stored, present, revised⟩ := RateLimitEffect.cleared effect
  have sound := rateLimitSound_of_reachable reached
  cases sound.replaces_read present observed (revised.trans same.symm)
  obtain ⟨since, before, share⟩ := List.append_of_mem (Trace.mem_of.mp observed)
  exact ⟨since, before, snapshot, share, present, revised,
    attempts_since_observed reached share present⟩

end Clear

/--
No update is lost.  In every state any interleaving reaches, a stored state is
the fold of the attempts committed on its key since the key was last absent,
each with its committer's policy and clock reading.  A call that returned has
counted each key it reports exactly once and none it failed or was denied on.  A
clear removes only the very state its own call observed, with nothing committed
on the key in between.
-/
theorem counters_lose_no_update {calls : RateLimitPool ι} {c : RateLimitConfig ι}
    (reached : RateLimitReachable calls c) :
    (∀ key snapshot, c.state.states key = some snapshot →
      foldAttempts key (sinceAbsent (calls.attempts key c.trace)) = some snapshot.state) ∧
    (∀ i result, Returned calls.program c i result →
      Accounted (calls i).1 (calls i).2 (c.trace.of i) result) ∧
    ∀ c' i key revision, Step rateLimitStore calls.program c c' →
      c'.trace = (i, clearedState key (some revision)) :: c.trace →
      ∃ since before snapshot,
        c.trace = since ++ (i, observedState key (some snapshot)) :: before ∧
        c.state.states key = some snapshot ∧ snapshot.revision = revision ∧
        calls.attempts key c.trace = calls.attempts key before := by
  refine ⟨?_, ?_, ?_⟩
  · intro key snapshot present
    have lineage := lineage_of_reachable reached key
    obtain ⟨newest, head, rfl⟩ := Option.map_eq_some_iff.mp
      ((rateLimitSound_of_reachable reached).stored present)
    obtain ⟨older, listed⟩ := List.head?_eq_some_iff.mp head
    rw [listed] at lineage ⊢
    exact lineage.fold
  · intro i result returned
    exact accounted_of_post
      ((RateLimitCall.verified (calls i).1 (calls i).2).post_of_path returned)
  · intro c' i key revision edge cleared
    exact clear_removes_observed reached edge cleared

/-- Two failures race on one key and both count; then a success clears what they left. -/
theorem raced_failures_both_counted :
    ((sampleRaceRun racedFailures).memory.states.entries.lookup sampleKey).map
        (·.state.attempts) = some 2 ∧
      (∀ key snapshot, (sampleRaceRun racedFailures).config.state.states key = some snapshot →
        foldAttempts key (sinceAbsent (sampleRaces.attempts key
          (sampleRaceRun racedFailures).config.trace)) = some snapshot.state) ∧
      CountedOnce [sampleKey] ((sampleRaceRun racedFailures).config.trace.of 0) ∧
      (sampleRaceRun (racedFailures ++ [2, 2, 2])).memory.states.entries.lookup sampleKey = none :=
  have counted := counters_lose_no_update (sampleRaceRun racedFailures).reached
  ⟨rfl, counted.1, counted.2.1 0 (.ok .recorded) (Running.returned_of_result? rfl), rfl⟩

end AgqlAuth
